import CommandLink.Proofs.Number.Rounding
import CommandLink.Value.Numeral

/-!
# Numerals that are read exactly

A numeral is read by a chain of steps each of which may round. If its digits make up a number of at most
53 binary digits, and the power of ten is at most 22 in either direction, the significand and the power
are doubles, so only the last step rounds, and the double is the nearest to what is written
(`toDouble?_eq_nearest`).
-/

namespace CommandLink

namespace Double

variable {n power : Nat} {negative : Bool}

/-- A magnitude that doubles have is not rounded. -/
theorem roundMagnitude_of_representable (exact : Representable n) : roundMagnitude n 1 = n := by
  have nearest : distance (roundMagnitude n 1) n ≤ distance n n :=
    roundMagnitude_nearest n ⟨false, n, exact⟩
  unfold distance at nearest
  omega

/-- Rounding a quotient does not depend on its terms. -/
theorem ofUnits?_mul (negative : Bool) (numerator denominator : Nat) {factor : Nat}
    (positive : 0 < factor) :
    ofUnits? negative (numerator * factor) (denominator * factor) =
      ofUnits? negative numerator denominator := by
  have rounded : roundMagnitude (numerator * factor) (denominator * factor) =
      roundMagnitude numerator denominator := by
    have divisors (step : Nat) : denominator * factor * step = denominator * step * factor :=
      Nat.mul_right_comm _ _ _
    have twice (rest : Nat) : 2 * (rest * factor) = 2 * rest * factor := (Nat.mul_assoc _ _ _).symm
    have ties (left right : Nat) : (left * factor == right * factor) = (left == right) := by
      rw [Bool.eq_iff_iff, beq_iff_eq, beq_iff_eq, Nat.mul_left_inj positive.ne']
    simp only [roundMagnitude, nearestMultiple, divisors, twice, ties,
      Nat.mul_div_mul_right _ _ positive, Nat.mul_mod_mul_right, Nat.mul_lt_mul_right positive]
  simp only [ofUnits?, rounded]

theorem ofUnits?_zero (negative : Bool) {denominator : Nat} (positive : 0 < denominator) :
    ofUnits? negative 0 denominator = ofUnits? negative 0 1 := by
  have scaled := ofUnits?_mul negative 0 1 positive
  rwa [Nat.zero_mul, Nat.one_mul] at scaled

theorem powerOfTwo_lt {low high : Nat} (ordered : low < high) : powerOfTwo low < powerOfTwo high :=
  Nat.pow_lt_pow_right (by decide) ordered

/-- A number of at most 53 binary digits, shifted to the left, is the magnitude of its double. -/
theorem magnitude_ofRatio (negative : Bool) {digits : Nat} (exponent : Nat)
    (short : digits ≤ powerOfTwo 53) (low : exponent ≤ 64) :
    (ofRatio negative (digits * powerOfTwo exponent) 1).negative = negative ∧
      (ofRatio negative (digits * powerOfTwo exponent) 1).magnitude =
        digits * powerOfTwo exponent * unitsPerOne := by
  have shift : digits * powerOfTwo exponent * unitsPerOne =
      digits * powerOfTwo (exponent + 1074) := by
    rw [powerOfTwo_add, unitsPerOne, Nat.mul_assoc]
  have exact : Representable (digits * powerOfTwo exponent * unitsPerOne) := by
    rw [shift]
    refine ⟨spacing_dvd_shift short _, ?_⟩
    calc digits * powerOfTwo (exponent + 1074)
        ≤ powerOfTwo 53 * powerOfTwo (exponent + 1074) := Nat.mul_le_mul_right _ short
      _ = powerOfTwo (53 + (exponent + 1074)) := (powerOfTwo_add _ _).symm
      _ < tooLarge := powerOfTwo_lt (by unfold mostBits; omega)
  have fits : roundMagnitude (digits * powerOfTwo exponent * unitsPerOne) 1 < tooLarge := by
    rw [roundMagnitude_of_representable exact]
    exact exact.2
  simp only [ofRatio, ofUnits?, dif_pos fits, Option.getD_some]
  exact ⟨trivial, roundMagnitude_of_representable exact⟩

/-- The powers of ten up to the twenty-second are doubles. -/
theorem magnitude_powerOfTen (low : power ≤ 22) :
    (powerOfTen power).negative = false ∧ (powerOfTen power).magnitude = 10 ^ power * unitsPerOne := by
  have fives : 5 ^ power ≤ powerOfTwo 53 :=
    (Nat.pow_le_pow_right (by decide) low).trans (by decide)
  have factors : 10 ^ power = 5 ^ power * powerOfTwo power := Nat.mul_pow 5 2 power
  have value := magnitude_ofRatio false power fives (low.trans (by decide))
  rw [← factors] at value
  exact value

variable {d : Double}

/-- A single multiplication rounds once. -/
theorem scale?_ofNat (value : d.magnitude = n * unitsPerOne) (low : power ≤ 22) :
    d.scale? (.ofNat power) = ofUnits? d.negative (n * 10 ^ power * unitsPerOne) 1 := by
  obtain ⟨positive, tens⟩ := magnitude_powerOfTen low
  have few : power ≤ mostTens := low.trans (by decide)
  have product : n * unitsPerOne * (10 ^ power * unitsPerOne) =
      n * 10 ^ power * unitsPerOne * unitsPerOne := by
    rw [← Nat.mul_assoc, Nat.mul_right_comm n]
  have scaled := ofUnits?_mul d.negative (n * 10 ^ power * unitsPerOne) 1 unitsPerOne_pos
  rw [Nat.one_mul] at scaled
  rw [scale?, if_pos few, mul?, positive, tens, value, product, Bool.bne_false, scaled]

/-- A single division rounds once. -/
theorem scale?_negSucc (value : d.magnitude = n * unitsPerOne) (low : power + 1 ≤ 22) :
    d.scale? (.negSucc power) = ofUnits? d.negative (n * unitsPerOne) (10 ^ (power + 1)) := by
  obtain ⟨positive, tens⟩ := magnitude_powerOfTen low
  have few : power + 1 ≤ mostTens := low.trans (by decide)
  rw [scale?, lower?, if_pos few, div?, positive, tens, value, Bool.bne_false,
    ofUnits?_mul _ _ _ unitsPerOne_pos]

end Double

namespace Decimal

variable {decimal : Decimal} {power : Nat}

theorem toDouble?_ofNat (exponent : decimal.exponent = .ofNat power) (low : power ≤ 22) :
    decimal.toDouble? =
      Double.ofUnits? decimal.negative (decimal.digits * 10 ^ power * Double.unitsPerOne) 1 := by
  have natural : Int.ofNat power = (power : Int) := rfl
  unfold toDouble?
  rw [exponent]
  split
  case isTrue zero => rw [zero, Nat.zero_mul, Nat.zero_mul]
  case isFalse =>
    rw [if_neg (by omega), if_neg (by omega)]
    rfl

theorem toDouble?_negSucc (exponent : decimal.exponent = .negSucc power) (low : power + 1 ≤ 22) :
    decimal.toDouble? =
      Double.ofUnits? decimal.negative (decimal.digits * Double.unitsPerOne) (10 ^ (power + 1)) := by
  unfold toDouble?
  rw [exponent]
  split
  case isTrue zero => rw [zero, Nat.zero_mul, Double.ofUnits?_zero _ (Nat.pow_pos (by decide))]
  case isFalse =>
    rw [if_neg (by omega), if_neg (by omega)]
    rfl

end Decimal

namespace Numeral

variable {numeral : Numeral} {digits : Text} {significand : Nat}

/-- A significand with further digits behind it, however many. -/
def extended (significand : Nat) (digits : Text) : Nat :=
  digits.foldl (fun value digit => 10 * value + (digit.toNat - 48)) significand

theorem extended_cons (significand : Nat) (digit : Char) (digits : Text) :
    extended significand (digit :: digits) =
      extended (10 * significand + (digit.toNat - 48)) digits :=
  List.foldl_cons ..

theorem le_extended (significand : Nat) (digits : Text) :
    significand ≤ extended significand digits := by
  induction digits generalizing significand with
  | nil => exact Nat.le_refl _
  | cons digit rest inductionHypothesis =>
      rw [extended_cons]
      exact Nat.le_trans (by omega) (inductionHypothesis _)

/-- Where there is room for all digits, all are gathered. -/
theorem gather_eq (room : extended significand digits < 0x10000000000000000) :
    gather significand digits = (extended significand digits, []) := by
  induction digits generalizing significand with
  | nil => rfl
  | cons digit rest inductionHypothesis =>
      rw [extended_cons] at room ⊢
      have more := Nat.lt_of_le_of_lt (le_extended _ rest) room
      rw [gather, if_pos more, inductionHypothesis room]

theorem digitsValue_append (digits more : Text) :
    digitsValue (digits ++ more) = extended (extended 0 digits) more :=
  List.foldl_append

/-- The decimal number that is written. -/
def decimal (numeral : Numeral) : Decimal :=
  ⟨numeral.negative, digitsValue (numeral.digits ++ numeral.fraction),
    numeral.power?.getD 0 - numeral.fraction.length⟩

/-- Where there is room for all digits, the significand is made up of them. -/
theorem toDouble?_eq_scale? (room : numeral.decimal.digits < 0x10000000000000000) :
    numeral.toDouble? =
      (Double.ofRatio numeral.negative numeral.decimal.digits 1).scale? numeral.decimal.exponent := by
  simp only [decimal, digitsValue_append] at room ⊢
  have roomWhole := Nat.lt_of_le_of_lt (le_extended _ numeral.fraction) room
  simp only [toDouble?, gather_eq roomWhole, gather_eq room]
  simp

/-- A numeral of few digits and a small exponent is read as the double nearest to what is written. -/
theorem toDouble?_eq_nearest (numeral : Numeral)
    (short : numeral.decimal.digits ≤ Double.powerOfTwo 53)
    (low : numeral.decimal.exponent.natAbs ≤ 22) :
    numeral.toDouble? = numeral.decimal.toDouble? := by
  have room : numeral.decimal.digits < 0x10000000000000000 := Nat.lt_of_le_of_lt short (by decide)
  obtain ⟨sign, value⟩ := Double.magnitude_ofRatio numeral.negative 0 short (by decide)
  rw [Double.powerOfTwo, Nat.pow_eq, Nat.pow_zero, Nat.mul_one] at sign value
  rw [toDouble?_eq_scale? room]
  cases exponent : numeral.decimal.exponent with
  | ofNat power =>
      have few : power ≤ 22 := by rwa [exponent] at low
      rw [Double.scale?_ofNat value few, sign, Decimal.toDouble?_ofNat exponent few]
      rfl
  | negSucc power =>
      have few : power + 1 ≤ 22 := by rwa [exponent] at low
      rw [Double.scale?_negSucc value few, sign, Decimal.toDouble?_negSucc exponent few]
      rfl

/-- With more digits the steps may round to one side each. -/
example :
    let numeral : Numeral := ⟨false, "0", "9452706955539223", none⟩
    numeral.toDouble? ≠ numeral.decimal.toDouble? := by
  decide +kernel

end Numeral

end CommandLink
