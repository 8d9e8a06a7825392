import CommandLink.Text.Basic
import CommandLink.Number.Double

/-!
# Shortest decimals

The decimal text of a double: the fewest digits that read back as the same double, and of several
such the nearest to its value. Where positional notation ends is up to the format.
-/

namespace CommandLink.Shortest

/-- Whether `digits * 10 ^ exponent` is at most `quarters` quarters of a unit; `strictly` less if
the end is left out. -/
def belowQuarters (strictly : Bool) (digits : Nat) (exponent : Int) (quarters : Nat) : Bool :=
  let (left, right) :=
    match exponent with
    | .ofNat power => (digits * Nat.pow 10 power * (4 * Double.unitsPerOne), quarters)
    | .negSucc power => (digits * (4 * Double.unitsPerOne), quarters * Nat.pow 10 (power + 1))
  if strictly then left < right else left ≤ right

/-- The decimals that are read as one and the same double, in quarters of a unit. -/
structure Interval where
  low : Nat
  high : Nat
  closed : Bool

/-- The decimals that are read as `magnitude`. It reaches half-way to both neighbours; the ends
belong to it when the last binary digit is even. -/
def interval (magnitude : Nat) : Interval where
  low := 4 * magnitude - 2 * Double.spacing (magnitude - 1)
  high := 4 * magnitude + 2 * Double.spacing magnitude
  closed := magnitude / Double.spacing magnitude % 2 = 0

/-- Whether a decimal lies in an interval. -/
def Interval.contains (i : Interval) (digits : Nat) (exponent : Int) : Bool :=
  belowQuarters (!i.closed) digits exponent i.high &&
    !belowQuarters i.closed digits exponent i.low

/-- The whole part of `magnitude` units divided by `10 ^ exponent`, and twice the rest as it
compares with `10 ^ exponent`. -/
def scaled (magnitude : Nat) (exponent : Int) : Nat × Ordering :=
  let (numerator, denominator) :=
    match exponent with
    | .ofNat power => (magnitude, Nat.pow 10 power * Double.unitsPerOne)
    | .negSucc power => (magnitude * Nat.pow 10 (power + 1), Double.unitsPerOne)
  (numerator / denominator, compare (2 * (numerator % denominator)) denominator)

/-- The exponent of the first decimal digit of `magnitude` units. -/
def leadingExponent (magnitude : Nat) : Int :=
  let guess := (((Nat.log2 magnitude : Int) - 1074) * 30103).fdiv 100000
  if belowQuarters false 1 (guess + 1) (4 * magnitude) then guess + 1
  else if belowQuarters false 1 guess (4 * magnitude) then guess
  else guess - 1

/-- The multiple of `10 ^ exponent` that reads back, of two such the nearer, on a tie the even
one. -/
def onGrid? (magnitude : Nat) (exponent : Int) : Option Nat :=
  let (below, half) := scaled magnitude exponent
  let i := interval magnitude
  match i.contains below exponent, i.contains (below + 1) exponent with
  | false, false => none
  | true, false => some below
  | false, true => some (below + 1)
  | true, true =>
      match half with
      | .lt => some below
      | .gt => some (below + 1)
      | .eq => some (if below % 2 = 0 then below else below + 1)

/-- Try grids of one digit more each time, at most `more` of them. -/
def search (magnitude : Nat) (exponent : Int) : Nat → Nat × Int
  | 0 => ((scaled magnitude exponent).1, exponent)
  | more + 1 =>
      match onGrid? magnitude exponent with
      | some digits => (digits, exponent)
      | none => search magnitude (exponent - 1) more

/-- Take trailing zeros off the digits, at most `more` of them. -/
def dropZeros (digits : Nat) (exponent : Int) : Nat → Nat × Int
  | 0 => (digits, exponent)
  | more + 1 =>
      if digits % 10 = 0 then dropZeros (digits / 10) (exponent + 1) more else (digits, exponent)

/-- The shortest decimal of a positive magnitude, as digits and the exponent of the last one. -/
def decimal (magnitude : Nat) : Nat × Int :=
  let (digits, exponent) := search magnitude (leadingExponent magnitude) 17
  dropZeros digits exponent 17

/-- The exponents of the first digit between which a decimal is written without an exponent. -/
structure Style where
  lowest : Int
  highest : Int

/-- Digits with a point among or beside them, so that the last one has the given exponent. -/
def positional (digits : Text) (exponent : Int) : Text :=
  match exponent with
  | .ofNat power => digits ++ List.replicate power '0' ++ ".0"
  | .negSucc power =>
      if power + 1 < digits.length then
        digits.take (digits.length - (power + 1)) ++ ['.'] ++
          digits.drop (digits.length - (power + 1))
      else "0." ++ List.replicate (power + 1 - digits.length) '0' ++ digits

/-- One digit before the point, and the exponent with its sign. -/
def scientific (digits : Text) (leading : Int) : Text :=
  let mantissa :=
    match digits with
    | [] => []
    | [digit] => [digit]
    | digit :: rest => digit :: '.' :: rest
  mantissa ++ (if leading < 0 then "e-" else "e+") ++ Text.ofNat leading.natAbs

/-- The text of a double. -/
def text (style : Style) (d : Double) : Text :=
  let sign : Text := if d.negative then "-" else ""
  if d.magnitude = 0 then sign ++ "0.0"
  else
    let (value, exponent) := decimal d.magnitude
    let digits := Text.ofNat value
    let leading := exponent + digits.length - 1
    sign ++
      if style.lowest ≤ leading && leading ≤ style.highest then positional digits exponent
      else scientific digits leading

end CommandLink.Shortest
