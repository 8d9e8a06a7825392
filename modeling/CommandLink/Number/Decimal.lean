import CommandLink.Text.Basic
import CommandLink.Number.Double

/-!
# Decimal texts

Reading numbers from decimal digits: integers, with the limits of their width left to the caller,
and decimal fractions with an exponent, rounded to the nearest double.
-/

namespace CommandLink

/-- The number that decimal digits stand for. -/
def digitsValue (digits : Text) : Nat :=
  digits.foldl (fun value digit => 10 * value + (digit.toNat - 48)) 0

/-- A sign at the front of a text, and what follows it. No sign is a plus sign. -/
def readSign : Text → Bool × Text
  | '-' :: rest => (true, rest)
  | '+' :: rest => (false, rest)
  | text => (false, text)

/-- Read a text that is all decimal digits, at least one of them. -/
def readNat? (text : Text) : Option Nat :=
  if text.isEmpty || !text.all Char.isDigit then none else some (digitsValue text)

/-- Read digits after an optional plus sign. -/
def readIndex? : Text → Option Nat
  | '+' :: rest => readNat? rest
  | text => readNat? text

/-- Read digits after an optional sign. -/
def readInt? (text : Text) : Option Int :=
  let (negative, digits) := readSign text
  (readNat? digits).map fun n => if negative then -(n : Int) else n

/-- The integers of 64 bits, one of them for the sign. -/
def fitsInt64 (n : Int) : Bool :=
  -0x8000000000000000 ≤ n && n < 0x8000000000000000

/-- Read an integer of 64 bits. -/
def readInt64? (text : Text) : Option Int :=
  (readInt? text).filter fitsInt64

/-- A decimal number as it is written: `digits * 10 ^ exponent`, with a sign. -/
structure Decimal where
  negative : Bool
  digits : Nat
  exponent : Int
deriving DecidableEq, Repr

namespace Decimal

/-- The nearest double, unless it is too large. Far beyond the range of doubles the exponent alone
decides. -/
def toDouble? (decimal : Decimal) : Option Double :=
  if decimal.digits = 0 then
    Double.ofUnits? decimal.negative 0 1
  else if 400 < decimal.exponent then
    none
  else if decimal.exponent < -(400 + (Nat.log2 decimal.digits : Int)) then
    Double.ofUnits? decimal.negative 0 1
  else
    match decimal.exponent with
    | .ofNat power =>
        Double.ofUnits? decimal.negative (decimal.digits * Nat.pow 10 power * Double.unitsPerOne) 1
    | .negSucc power =>
        Double.ofUnits? decimal.negative (decimal.digits * Double.unitsPerOne) (Nat.pow 10 (power + 1))

/-- The exponent that a text gives after its digits: none of it, or the letter E, an optional sign
and digits. -/
def readExponent? : Text → Option Int
  | [] => some 0
  | c :: rest => if c = 'e' || c = 'E' then readInt? rest else none

/-- Read digits with an optional point, of which one digit at least must be there, and an optional
exponent. -/
def readUnsigned? (negative : Bool) (text : Text) : Option Decimal :=
  let whole := text.takeWhile Char.isDigit
  let rest := text.dropWhile Char.isDigit
  let (fraction, rest) :=
    match rest with
    | '.' :: rest => (rest.takeWhile Char.isDigit, rest.dropWhile Char.isDigit)
    | rest => ([], rest)
  if whole.isEmpty && fraction.isEmpty then none
  else (readExponent? rest).map fun exponent =>
    ⟨negative, digitsValue (whole ++ fraction), exponent - fraction.length⟩

/-- Read a decimal number with an optional sign. -/
def read? (text : Text) : Option Decimal :=
  let (negative, rest) := readSign text
  readUnsigned? negative rest

end Decimal

end CommandLink
