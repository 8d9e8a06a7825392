import CommandLink.Text.Basic

/-!
# UTF-8

Octets become characters one octet at a time. Between two octets a decoder keeps the octets of the
character that is still unfinished; that is all its state, so a stream may be cut anywhere.
-/

namespace CommandLink.Utf8

/-- The octets of a text. -/
def encode (text : Text) : List UInt8 :=
  text.flatMap String.utf8EncodeChar

/-- The range in which the next octet must lie for `octets` to go on as one character. There is none
when `octets` is no unfinished beginning of a character. -/
def continuation : List UInt8 → Option (UInt8 × UInt8)
  | [lead] =>
      if lead < 0xC2 then none
      else if lead < 0xE0 then some (0x80, 0xBF)
      else if lead = 0xE0 then some (0xA0, 0xBF)
      else if lead = 0xED then some (0x80, 0x9F)
      else if lead < 0xF0 then some (0x80, 0xBF)
      else if lead = 0xF0 then some (0x90, 0xBF)
      else if lead < 0xF4 then some (0x80, 0xBF)
      else if lead = 0xF4 then some (0x80, 0x8F)
      else none
  | [lead, _] => if 0xE0 ≤ lead && lead ≤ 0xF4 then some (0x80, 0xBF) else none
  | [lead, _, _] => if 0xF0 ≤ lead && lead ≤ 0xF4 then some (0x80, 0xBF) else none
  | _ => none

/-- The code point that the octets of one whole character stand for. -/
def codePoint : List UInt8 → Nat
  | [a] => a.toNat
  | [a, b] => a.toNat % 0x20 * 0x40 + b.toNat % 0x40
  | [a, b, c] => (a.toNat % 0x10 * 0x40 + b.toNat % 0x40) * 0x40 + c.toNat % 0x40
  | [a, b, c, d] =>
      ((a.toNat % 8 * 0x40 + b.toNat % 0x40) * 0x40 + c.toNat % 0x40) * 0x40 + d.toNat % 0x40
  | _ => 0

/-- One thing that was read: a character, or octets that form none. -/
abbrev Item := Option Char

/-- Read an octet where no character is unfinished. The second part is what stays unfinished. -/
def start (octet : UInt8) : List Item × List UInt8 :=
  if octet < 0x80 then ([some (Char.ofNat octet.toNat)], [])
  else if (continuation [octet]).isSome then ([], [octet])
  else ([none], [])

/-- Read an octet after the unfinished octets `carry`. -/
def step (carry : List UInt8) (octet : UInt8) : List Item × List UInt8 :=
  match continuation carry with
  | none => start octet
  | some (low, high) =>
      if low ≤ octet && octet ≤ high then
        if (continuation (carry ++ [octet])).isSome then ([], carry ++ [octet])
        else ([some (Char.ofNat (codePoint (carry ++ [octet])))], [])
      else (none :: (start octet).1, (start octet).2)

/-- Read octets after `carry`: what was read, and what is still unfinished. -/
def read (carry : List UInt8) : List UInt8 → List Item × List UInt8
  | [] => ([], carry)
  | octet :: rest =>
      let (items, unfinished) := step carry octet
      let (later, final) := read unfinished rest
      (items ++ later, final)

/-- The replacement character, which stands for octets that form no character. -/
def replacement : Char := Char.ofNat 0xFFFD

/-- The characters of what was read, with the replacement character for ill-formed octets. -/
def characters (items : List Item) : Text :=
  items.map (·.getD replacement)

/-- Decode the octets that follow `carry` as far as they form characters. The second part is the
carry for the octets to come. -/
def take (carry octets : List UInt8) : Text × List UInt8 :=
  let (items, unfinished) := read carry octets
  (characters items, unfinished)

/-- The text of an unfinished character that will get no more octets. -/
def abandon (carry : List UInt8) : Text :=
  if carry.isEmpty then [] else [replacement]

/-- Decode all octets. Every longest stretch of ill-formed octets gives one replacement character. -/
def decodeLossy (octets : List UInt8) : Text :=
  let (text, carry) := take [] octets
  text ++ abandon carry

/-- Decode octets that must be well-formed throughout. -/
def decode? (octets : List UInt8) : Option Text :=
  match read [] octets with
  | (items, []) => items.mapM id
  | (_, _ :: _) => none

end CommandLink.Utf8
