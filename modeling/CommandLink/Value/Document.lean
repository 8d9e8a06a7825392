import CommandLink.Text.Basic
import CommandLink.Number.Decimal

/-!
# JSON documents

The grammar of JSON: what a text spells, before anything is said about the values it can hold. A
document keeps numbers as digits, escapes as code units, and fields in the order and as often as
they are written, so limits of size, depth and range are left to those who use it.
-/

namespace CommandLink

/-- A piece of a string: a character, or a code unit of 16 bits that an escape names. -/
inductive Piece where
  | char (c : Char)
  | unit (code : Nat)
deriving DecidableEq, Repr

/-- A number as it is written. -/
structure Numeral where
  negative : Bool
  /-- The digits in front of the point. -/
  digits : Text
  /-- The digits behind the point, none without one. -/
  fraction : Text
  /-- The exponent, if there is one. -/
  power? : Option Int
deriving DecidableEq, Repr

/-- What a JSON text spells. -/
inductive Document where
  | null
  | bool (b : Bool)
  | number (numeral : Numeral)
  | string (pieces : List Piece)
  | array (items : List Document)
  | object (fields : List (List Piece × Document))

namespace Document

/-- The blanks that may stand between the parts of a document. -/
def isGap (c : Char) : Bool :=
  c = ' ' || c = '\n' || c = '\r' || c = '\t'

/-- Pass over blanks. -/
def skipGap (text : Text) : Text :=
  text.dropWhile isGap

/-- The value of a hexadecimal digit. -/
def hexValue? (c : Char) : Option Nat :=
  if c.isDigit then some (c.toNat - 48)
  else if 'a' ≤ c && c ≤ 'f' then some (c.toNat - 87)
  else if 'A' ≤ c && c ≤ 'F' then some (c.toNat - 55)
  else none

/-- The code unit that four hexadecimal digits name. -/
def codeUnit? (a b c d : Char) : Option Nat := do
  let a ← hexValue? a
  let b ← hexValue? b
  let c ← hexValue? c
  let d ← hexValue? d
  return ((a * 16 + b) * 16 + c) * 16 + d

/-- The character that a backslash and a letter stand for. -/
def escaped? (c : Char) : Option Char :=
  if c = '"' || c = '\\' || c = '/' then some c
  else if c = 'b' then some '\x08'
  else if c = 'f' then some '\x0c'
  else if c = 'n' then some '\n'
  else if c = 'r' then some '\r'
  else if c = 't' then some '\t'
  else none

/-- Read a string up to its closing quote, of which the rest of the text is left. -/
def readString : Text → Option (List Piece × Text)
  | [] => none
  | '"' :: rest => some ([], rest)
  | '\\' :: 'u' :: a :: b :: c :: d :: rest => do
      let code ← codeUnit? a b c d
      let (pieces, rest) ← readString rest
      return (.unit code :: pieces, rest)
  | '\\' :: c :: rest => do
      let c ← escaped? c
      let (pieces, rest) ← readString rest
      return (.char c :: pieces, rest)
  | c :: rest =>
      if c = '\\' || c.toNat < 0x20 then none
      else do
        let (pieces, rest) ← readString rest
        return (.char c :: pieces, rest)

/-- Digits at the front of a text, at least one, and what follows them. -/
def readDigits (text : Text) : Option (Text × Text) :=
  let digits := text.takeWhile Char.isDigit
  if digits.isEmpty then none else some (digits, text.dropWhile Char.isDigit)

/-- The fraction of a number, empty without a point. -/
def readFraction : Text → Option (Text × Text)
  | '.' :: rest => readDigits rest
  | rest => some ([], rest)

/-- The exponent of a number, absent without its letter. -/
def readPower : Text → Option (Option Int × Text)
  | [] => some (none, [])
  | c :: rest =>
      if c = 'e' || c = 'E' then do
        let (negative, digits) := readSign rest
        let (digits, rest) ← readDigits digits
        let power : Int := digitsValue digits
        return (some (if negative then -power else power), rest)
      else some (none, c :: rest)

/-- Read a number: no zero stands before another digit. -/
def readNumber (text : Text) : Option (Document × Text) := do
  let (negative, rest) :=
    match text with
    | '-' :: rest => (true, rest)
    | rest => (false, rest)
  let (digits, rest) ← readDigits rest
  if digits.head? = some '0' && 1 < digits.length then none
  else
    let (fraction, rest) ← readFraction rest
    let (power?, rest) ← readPower rest
    return (.number ⟨negative, digits, fraction, power?⟩, rest)

mutual

/-- Read one value, of which the rest of the text is left. The depth of the recursion is at most
`fuel`. -/
def readValue : Nat → Text → Option (Document × Text)
  | 0, _ => none
  | fuel + 1, text =>
      match skipGap text with
      | '{' :: rest =>
          match skipGap rest with
          | '}' :: rest => some (.object [], rest)
          | rest => do
              let (fields, rest) ← readFields fuel rest
              return (.object fields, rest)
      | '[' :: rest =>
          match skipGap rest with
          | ']' :: rest => some (.array [], rest)
          | rest => do
              let (items, rest) ← readItems fuel rest
              return (.array items, rest)
      | '"' :: rest => do
          let (pieces, rest) ← readString rest
          return (.string pieces, rest)
      | 'n' :: 'u' :: 'l' :: 'l' :: rest => some (.null, rest)
      | 't' :: 'r' :: 'u' :: 'e' :: rest => some (.bool true, rest)
      | 'f' :: 'a' :: 'l' :: 's' :: 'e' :: rest => some (.bool false, rest)
      | rest => readNumber rest

/-- Read the items of an array, at least one, and its closing bracket. -/
def readItems : Nat → Text → Option (List Document × Text)
  | 0, _ => none
  | fuel + 1, text => do
      let (item, rest) ← readValue fuel text
      match skipGap rest with
      | ']' :: rest => some ([item], rest)
      | ',' :: rest =>
          let (items, rest) ← readItems fuel rest
          return (item :: items, rest)
      | _ => none

/-- Read the fields of an object, at least one, and its closing brace. -/
def readFields : Nat → Text → Option (List (List Piece × Document) × Text)
  | 0, _ => none
  | fuel + 1, text =>
      match skipGap text with
      | '"' :: rest => do
          let (name, rest) ← readString rest
          match skipGap rest with
          | ':' :: rest =>
              let (value, rest) ← readValue fuel rest
              match skipGap rest with
              | '}' :: rest => some ([(name, value)], rest)
              | ',' :: rest =>
                  let (fields, rest) ← readFields fuel rest
                  return ((name, value) :: fields, rest)
              | _ => none
          | _ => none
      | _ => none

end

/-- Read a text that is one document and nothing else. A step of the recursion that takes no
character is followed by one that does, so the fuel is enough. -/
def read? (text : Text) : Option Document :=
  match readValue (2 * text.length + 2) text with
  | some (document, rest) => if (skipGap rest).isEmpty then some document else none
  | none => none

end Document

end CommandLink
