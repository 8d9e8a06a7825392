import CommandLink.Text.LetterCase

/-!
# Character sets

The sets of characters that patterns are built from: ranges, properties, and what set operations and
letter case make of them.
-/

namespace CommandLink

/-- Characters that belong to words: letters, marks, decimal numbers, connectors and joiners. -/
def isWordCharacter (c : Char) : Bool :=
  if c.toNat < 0x80 then c.isAlphanum || c == '_'
  else match Category.of c with
  | .lu | .ll | .lt | .lm | .lo | .mn | .mc | .me | .nd | .nl | .pc => true
  | _ =>
      let code := c.toNat
      code == 0x200C || code == 0x200D || (0x24B6 ≤ code && code ≤ 0x24E9) ||
        (0x1F130 ≤ code && code ≤ 0x1F149) || (0x1F150 ≤ code && code ≤ 0x1F169) ||
        (0x1F170 ≤ code && code ≤ 0x1F189)

/-- Decimal digits of any script. -/
def isDecimalDigit (c : Char) : Bool :=
  if c.toNat < 0x80 then c.isDigit else Category.of c == .nd

namespace LetterCase

/-- Small letters that equal another one when case is ignored, with that other one. -/
def twins : List (Char × Char) := [
  ('ſ', 's'), ('ς', 'σ'), ('µ', 'μ'), ('ϐ', 'β'), ('ϑ', 'θ'), ('ϕ', 'φ'), ('ϖ', 'π'), ('ϰ', 'κ'),
  ('ϱ', 'ρ'), ('ϵ', 'ε'), ('ẛ', 'ṡ'), (Char.ofNat 0x1FBE, 'ι'), (Char.ofNat 0x345, 'ι')]

/-- The letter that stands for all that equal it when case is ignored. -/
def representative (c : Char) : Char :=
  (twins.lookup (small c)).getD (small c)

/-- All characters whose small letter is `c`, apart from itself. -/
def capitals (c : Char) : List Char :=
  if c.toNat < 0x80 then
    (if c.isLower then [c.toUpper] else []) ++
      if c = 'k' then [Char.ofNat 0x212A] else []
  else runs.filterMap fun run =>
    let code := ((c.toNat : Int) - run.offset).toNat
    if run.contains code then some (Char.ofNat code) else none

/-- All characters that equal `c` when case is ignored. -/
def variants (c : Char) : List Char :=
  let letter := representative c
  let smalls := letter :: (twins.filter (·.2 == letter)).map (·.1)
  c :: (smalls ++ smalls.flatMap capitals)

end LetterCase

/-- A set of characters. -/
inductive CharacterSet where
  | range (first last : Char)
  /-- The characters that a property holds of. -/
  | property (holds : Char → Bool)
  | union (left right : CharacterSet)
  | inter (left right : CharacterSet)
  | complement (set : CharacterSet)
  /-- With each character all that equal it when case is ignored. -/
  | anyCase (set : CharacterSet)

namespace CharacterSet

/-- Whether a character is in a set. -/
def contains : CharacterSet → Char → Bool
  | .range first last, c => first ≤ c && c ≤ last
  | .property holds, c => holds c
  | .union left right, c => left.contains c || right.contains c
  | .inter left right, c => left.contains c && right.contains c
  | .complement set, c => !set.contains c
  | .anyCase set, c => (LetterCase.variants c).any set.contains

/-- One character. -/
def single (c : Char) : CharacterSet := .range c c

/-- No character. -/
def empty : CharacterSet := .property fun _ => false

/-- The characters of the first set that are not in the second. -/
def diff (left right : CharacterSet) : CharacterSet :=
  .inter left (.complement right)

/-- The characters that are in one of the sets only. -/
def symmDiff (left right : CharacterSet) : CharacterSet :=
  .union (left.diff right) (right.diff left)

end CharacterSet

end CommandLink
