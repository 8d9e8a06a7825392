import CommandLink.Value.Basic
import CommandLink.Value.Document

/-!
# Reading numerals

The number that a JSON numeral is read as. Its digits are gathered in a significand of 64 bits, and
those for which there is no more room are passed over. For a double, the significand is brought to its
power of ten by multiplication or division with doubles. Each of these steps rounds, so the double
need not be the nearest to what is written.
-/

namespace CommandLink

namespace Double

/-- The double nearest to a power of ten, which is not above the largest double. -/
def powerOfTen (power : Nat) : Double :=
  ofRatio false (Nat.pow 10 power) 1

/-- The exponent of the largest power of ten among the doubles. -/
def mostTens : Nat := 308

/-- A double divided by a power of ten, by no more than the largest of them at once. `turns` is how
often it may be divided. -/
def lower? (turns : Nat) (d : Double) (power : Nat) : Option Double :=
  match turns with
  | 0 => none
  | turns + 1 =>
      if power ≤ mostTens then d.div? (powerOfTen power)
      else if d.magnitude = 0 then some d
      else do
        let d ← d.div? (powerOfTen mostTens)
        lower? turns d (power - mostTens)

/-- A double times a power of ten, unless it is too large. -/
def scale? (d : Double) : Int → Option Double
  | .ofNat power =>
      if power ≤ mostTens then d.mul? (powerOfTen power)
      else if d.magnitude = 0 then some d
      else none
  | .negSucc power => d.lower? (power / mostTens + 1) (power + 1)

end Double

namespace Numeral

/-- Whether there is neither a fraction nor an exponent. -/
def isWhole (numeral : Numeral) : Bool :=
  numeral.fraction.isEmpty && numeral.power?.isNone

/-- A significand with as many further digits as there is room for, and the digits left over. -/
def gather (significand : Nat) : Text → Nat × Text
  | [] => (significand, [])
  | digit :: rest =>
      let more := 10 * significand + (digit.toNat - 48)
      if more < 0x10000000000000000 then gather more rest else (significand, digit :: rest)

/-- The double that a numeral is read as, unless it is too large. A digit in front of the point that is
passed over is a power of ten more, and one behind it that is gathered is a power of ten less. -/
def toDouble? (numeral : Numeral) : Option Double :=
  let (whole, passed) := gather 0 numeral.digits
  let (significand, ignored) := gather whole numeral.fraction
  let gathered := numeral.fraction.length - ignored.length
  (Double.ofRatio numeral.negative significand 1).scale?
    (numeral.power?.getD 0 + passed.length - gathered)

/-- The number that a numeral is read as. Whole numbers from `-2 ^ 63` up to `2 ^ 64` are integers,
but for a negative zero; all others are doubles, and there is none if a double cannot hold it. -/
def number? (numeral : Numeral) : Option Number :=
  let value := digitsValue numeral.digits
  if numeral.isWhole && !numeral.negative && value < 0x10000000000000000 then some (.integer value)
  else if numeral.isWhole && numeral.negative && 0 < value && value ≤ 0x8000000000000000 then
    some (.integer (-(value : Int)))
  else numeral.toDouble?.map .float

end Numeral

end CommandLink
