/-!
# Doubles

Finite binary floating-point numbers of 64 bits, as exact whole numbers of the smallest positive
one. Every operation rounds once, to the nearest double and on a tie to the one whose last digit is
even, so it is a statement about natural numbers.
-/

namespace CommandLink

namespace Double

/-- A power of two. -/
def powerOfTwo (exponent : Nat) : Nat := Nat.pow 2 exponent

/-- How many of the smallest positive doubles make up one: `2 ^ 1074`. -/
def unitsPerOne : Nat := powerOfTwo 1074

/-- How many binary digits the magnitudes of doubles have at most, in units. -/
def mostBits : Nat := 2098

/-- The first magnitude that is too large, `2 ^ 1024`, in units. -/
def tooLarge : Nat := powerOfTwo mostBits

/-- The distance between the doubles around `magnitude`: they have 53 binary digits. -/
def spacing (magnitude : Nat) : Nat := powerOfTwo (Nat.log2 magnitude - 52)

/-- The magnitudes that doubles have. -/
def Representable (magnitude : Nat) : Prop :=
  spacing magnitude ∣ magnitude ∧ magnitude < tooLarge

end Double

/-- A finite double: its sign, and its magnitude in units of `2 ^ -1074`. Zero has either sign. -/
structure Double where
  negative : Bool
  magnitude : Nat
  representable : Double.Representable magnitude
deriving DecidableEq

namespace Double

/-- The nearest multiple of `step` to `numerator / denominator`, a tie going to the even one. -/
def nearestMultiple (step numerator denominator : Nat) : Nat :=
  let divisor := denominator * step
  let quotient := numerator / divisor
  let remainder := numerator % divisor
  let upward := divisor < 2 * remainder || (2 * remainder == divisor && quotient % 2 == 1)
  (if upward then quotient + 1 else quotient) * step

/-- The magnitude nearest to `numerator / denominator` units, whether or not it is too large. -/
def roundMagnitude (numerator denominator : Nat) : Nat :=
  nearestMultiple (spacing (numerator / denominator)) numerator denominator

theorem powerOfTwo_pos (exponent : Nat) : 0 < powerOfTwo exponent :=
  Nat.two_pow_pos exponent

theorem powerOfTwo_add (left right : Nat) :
    powerOfTwo (left + right) = powerOfTwo left * powerOfTwo right :=
  Nat.pow_add 2 left right

theorem powerOfTwo_le {low high : Nat} (ordered : low ≤ high) : powerOfTwo low ≤ powerOfTwo high :=
  Nat.pow_le_pow_right Nat.two_pos ordered

theorem powerOfTwo_dvd {low high : Nat} (ordered : low ≤ high) : powerOfTwo low ∣ powerOfTwo high :=
  Nat.pow_dvd_pow 2 ordered

theorem log2_mul_powerOfTwo {n : Nat} (positive : n ≠ 0) (exponent : Nat) :
    Nat.log2 (n * powerOfTwo exponent) = Nat.log2 n + exponent := by
  have bounds := (Nat.log2_eq_iff positive).1 rfl
  have productPositive : n * powerOfTwo exponent ≠ 0 :=
    Nat.mul_ne_zero positive (Nat.ne_of_gt (powerOfTwo_pos exponent))
  refine (Nat.log2_eq_iff productPositive).2 ⟨?_, ?_⟩
  · rw [Nat.pow_add]
    exact Nat.mul_le_mul_right _ bounds.1
  · rw [show Nat.log2 n + exponent + 1 = Nat.log2 n + 1 + exponent by omega, Nat.pow_add]
    exact Nat.mul_lt_mul_of_pos_right bounds.2 (powerOfTwo_pos exponent)

/-- A number of at most 53 binary digits, shifted to the left, is a multiple of its spacing. -/
theorem spacing_dvd_shift {digits : Nat} (small : digits ≤ powerOfTwo 53) (exponent : Nat) :
    spacing (digits * powerOfTwo exponent) ∣ digits * powerOfTwo exponent := by
  by_cases zero : digits = 0
  · simp [zero]
  · by_cases full : digits = powerOfTwo 53
    · rw [full, ← powerOfTwo_add, spacing, ← Nat.one_mul (powerOfTwo (53 + exponent)),
        log2_mul_powerOfTwo Nat.one_ne_zero, Nat.one_mul]
      exact powerOfTwo_dvd (by rw [show Nat.log2 1 = 0 by decide]; omega)
    · have short : Nat.log2 digits < 53 :=
        (Nat.log2_lt zero).2 (Nat.lt_of_le_of_ne small full)
      rw [spacing, log2_mul_powerOfTwo zero]
      exact Nat.dvd_trans (powerOfTwo_dvd (by omega)) (Nat.dvd_mul_left _ _)

theorem spacing_dvd_roundMagnitude (numerator denominator : Nat) :
    spacing (roundMagnitude numerator denominator) ∣ roundMagnitude numerator denominator := by
  unfold roundMagnitude nearestMultiple
  have digits : numerator / (denominator * spacing (numerator / denominator)) <
      powerOfTwo 53 := by
    rw [← Nat.div_div_eq_div_mul]
    generalize numerator / denominator = whole
    rw [spacing, Nat.div_lt_iff_lt_mul (powerOfTwo_pos _), ← powerOfTwo_add]
    exact Nat.lt_of_lt_of_le Nat.lt_log2_self (powerOfTwo_le (by omega))
  dsimp only
  rw [spacing.eq_1 (numerator / denominator)] at digits ⊢
  split
  · exact spacing_dvd_shift (by omega) _
  · exact spacing_dvd_shift (by omega) _

/-- The double nearest to `numerator / denominator` units, unless it is too large. -/
def ofUnits? (negative : Bool) (numerator denominator : Nat) : Option Double :=
  if fits : roundMagnitude numerator denominator < tooLarge then
    some ⟨negative, roundMagnitude numerator denominator,
      spacing_dvd_roundMagnitude numerator denominator, fits⟩
  else none

/-- Up to 53 binary digits are representable wherever they stand, below the limit. -/
theorem representable_shift {digits exponent : Nat} (short : digits < powerOfTwo 53)
    (low : 53 + exponent ≤ mostBits) : Representable (digits * powerOfTwo exponent) := by
  have below : digits * powerOfTwo exponent < powerOfTwo (53 + exponent) := by
    rw [powerOfTwo_add]
    exact Nat.mul_lt_mul_of_pos_right short (powerOfTwo_pos exponent)
  exact ⟨spacing_dvd_shift (Nat.le_of_lt short) exponent,
    Nat.lt_of_lt_of_le below (powerOfTwo_le low)⟩

/-- The largest double: 53 binary digits, all of them one. -/
def largest : Double :=
  ⟨false, (powerOfTwo 53 - 1) * powerOfTwo 2045, representable_shift (by decide) (by decide)⟩

/-- The double nearest to `numerator / denominator`; the largest one if they are all smaller. -/
def ofRatio (negative : Bool) (numerator denominator : Nat) : Double :=
  (ofUnits? negative (numerator * unitsPerOne) denominator).getD { largest with negative }

/-- The double nearest to an integer. -/
def ofInt (n : Int) : Double :=
  ofRatio (n < 0) n.natAbs 1

/-- Zero, with the positive sign. -/
def zero : Double := ⟨false, 0 * powerOfTwo 0, representable_shift (by decide) (by decide)⟩

instance : Inhabited Double := ⟨zero⟩

/-- The exact value in units of `2 ^ -1074`. -/
def units (d : Double) : Int :=
  if d.negative then -(d.magnitude : Int) else d.magnitude

/-- Doubles are ordered by their values, so both zeros are equal. -/
def order (left right : Double) : Ordering :=
  compare left.units right.units

/-- Whether two doubles have the same value. -/
def sameValue (left right : Double) : Bool :=
  left.units == right.units

/-- The double nearest to the difference. -/
def sub (left right : Double) : Double :=
  let difference := left.units - right.units
  (ofUnits? (difference < 0) difference.natAbs 1).getD { largest with negative := difference < 0 }

/-- The double nearest to the product, unless it is too large. -/
def mul? (left right : Double) : Option Double :=
  ofUnits? (left.negative != right.negative) (left.magnitude * right.magnitude) unitsPerOne

/-- The double nearest to the quotient by a divisor that is not zero, unless it is too large. -/
def div? (left right : Double) : Option Double :=
  ofUnits? (left.negative != right.negative) (left.magnitude * unitsPerOne) right.magnitude

/-- The integer that a double is, if it is one. -/
def toInt? (d : Double) : Option Int :=
  if unitsPerOne ∣ d.magnitude then some (d.units / unitsPerOne) else none

end Double

end CommandLink
