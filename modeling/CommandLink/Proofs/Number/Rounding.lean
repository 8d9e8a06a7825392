import CommandLink.Number.Double
import Mathlib.Algebra.Order.Ring.Int

/-!
# Rounding integers

The double of an integer is nearest to it: no double is less far away (`ofInt_nearest`). All else that
is said of it follows from that. Doubles keep the order of the integers, though they may be the same for
different ones, and an integer that is the value of some double is the value of its own.
-/

namespace CommandLink.Double

/-- How far a magnitude is from a number of units. -/
def distance (magnitude units : Nat) : Nat :=
  ((magnitude : Int) - units).natAbs

/-- No multiple of the step is nearer than the one that is chosen. -/
theorem nearestMultiple_nearest {step : Nat} (positive : 0 < step) (n factor : Nat) :
    distance (nearestMultiple step n 1) n ≤ distance (factor * step) n := by
  have whole : n / step * step + n % step = n := Nat.div_add_mod' n step
  have short : n % step < step := Nat.mod_lt n positive
  -- A multiple is at most the one below `n`, or at least the one above.
  have sides : factor * step ≤ n / step * step ∨ n / step * step + step ≤ factor * step := by
    rcases Nat.lt_or_ge (n / step) factor with above | below
    · right
      rw [← Nat.succ_mul]
      exact Nat.mul_le_mul_right step above
    · exact .inl (Nat.mul_le_mul_right step below)
  unfold nearestMultiple distance
  dsimp only
  rw [Nat.one_mul]
  split
  case isTrue upward =>
    rw [Nat.succ_mul]
    simp only [Bool.or_eq_true, decide_eq_true_eq, Bool.and_eq_true, beq_iff_eq] at upward
    omega
  case isFalse downward =>
    simp only [Bool.or_eq_true, decide_eq_true_eq, Bool.and_eq_true, beq_iff_eq, not_or] at downward
    omega

theorem le_log2_of_powerOfTwo_le {exponent n : Nat} (large : powerOfTwo exponent ≤ n) :
    exponent ≤ Nat.log2 n := by
  have filled : n ≠ 0 := (Nat.lt_of_lt_of_le (powerOfTwo_pos exponent) large).ne'
  exact (Nat.le_log2 filled).2 large

theorem spacing_pos (magnitude : Nat) : 0 < spacing magnitude :=
  powerOfTwo_pos _

theorem spacing_dvd_spacing {low high : Nat} (ordered : Nat.log2 low ≤ Nat.log2 high) :
    spacing low ∣ spacing high :=
  powerOfTwo_dvd (by omega)

/-- No double is nearer to a number of units than the magnitude that it is rounded to. -/
theorem roundMagnitude_nearest (n : Nat) (d : Double) :
    distance (roundMagnitude n 1) n ≤ distance d.magnitude n := by
  rw [roundMagnitude, Nat.div_one]
  have nearest := nearestMultiple_nearest (spacing_pos n) n
  by_cases aligned : spacing n ∣ d.magnitude
  · obtain ⟨factor, whole⟩ := aligned
    rw [whole, Nat.mul_comm]
    exact nearest factor
  · -- The spacing is finer than that of `n` only below the power of two that `n` begins with.
    have positive : n ≠ 0 := by
      rintro rfl
      exact aligned (Nat.one_dvd _)
    have bounds := (Nat.log2_eq_iff positive).1 rfl
    have below : d.magnitude < powerOfTwo (Nat.log2 n) := by
      by_contra above
      have ordered := le_log2_of_powerOfTwo_le (Nat.le_of_not_lt above)
      exact aligned ((spacing_dvd_spacing ordered).trans d.representable.1)
    obtain ⟨factor, whole⟩ : spacing n ∣ powerOfTwo (Nat.log2 n) := powerOfTwo_dvd (Nat.sub_le _ _)
    have power := nearest factor
    rw [Nat.mul_comm, ← whole] at power
    have least : powerOfTwo (Nat.log2 n) ≤ n := bounds.1
    unfold distance at power ⊢
    omega

/-- No double has a larger magnitude than the largest one. -/
theorem magnitude_le_largest (d : Double) : d.magnitude ≤ largest.magnitude := by
  have below : d.magnitude < powerOfTwo 53 * powerOfTwo 2045 := by
    rw [← powerOfTwo_add]
    exact d.representable.2
  rcases Nat.lt_or_ge d.magnitude (powerOfTwo 52 * powerOfTwo 2045) with small | large
  · have half : powerOfTwo 52 ≤ powerOfTwo 53 - 1 := by decide
    exact small.le.trans (Nat.mul_le_mul_right _ half)
  · rw [← powerOfTwo_add] at large
    have ordered := le_log2_of_powerOfTwo_le large
    have coarse : powerOfTwo 2045 ∣ d.magnitude :=
      (powerOfTwo_dvd (by omega)).trans d.representable.1
    obtain ⟨digits, whole⟩ := coarse
    rw [whole, Nat.mul_comm] at below ⊢
    have few : digits < powerOfTwo 53 := Nat.lt_of_mul_lt_mul_right below
    exact Nat.mul_le_mul_right _ (Nat.le_sub_one_of_lt few)

theorem unitsPerOne_pos : 0 < unitsPerOne :=
  powerOfTwo_pos 1074

/-- The exact value of an integer, in units. -/
def exactUnits (n : Int) : Int := n * unitsPerOne

theorem natAbs_exactUnits (n : Int) : (exactUnits n).natAbs = n.natAbs * unitsPerOne := by
  rw [exactUnits, Int.natAbs_mul, Int.natAbs_natCast]

theorem natAbs_exactUnits_sub (a b : Int) :
    (exactUnits a - exactUnits b).natAbs = (a - b).natAbs * unitsPerOne := by
  rw [← natAbs_exactUnits, exactUnits, exactUnits, exactUnits, Int.sub_mul]

theorem exactUnits_lt_exactUnits {a b : Int} : exactUnits a < exactUnits b ↔ a < b :=
  mul_lt_mul_iff_of_pos_right (Int.natCast_pos.mpr unitsPerOne_pos)

theorem exactUnits_le_exactUnits {a b : Int} : exactUnits a ≤ exactUnits b ↔ a ≤ b :=
  mul_le_mul_iff_of_pos_right (Int.natCast_pos.mpr unitsPerOne_pos)

theorem exactUnits_neg {n : Int} : exactUnits n < 0 ↔ n < 0 := by
  have zero : exactUnits 0 = 0 := Int.zero_mul _
  have ordered := exactUnits_lt_exactUnits (a := n) (b := 0)
  rwa [zero] at ordered

/-- The sign and the magnitude of the double of an integer. What is too large becomes the largest
double. -/
theorem ofInt_eq (n : Int) : (ofInt n).negative = decide (n < 0) ∧
    (ofInt n).magnitude =
      if roundMagnitude (exactUnits n).natAbs 1 < tooLarge then
        roundMagnitude (exactUnits n).natAbs 1
      else largest.magnitude := by
  rw [natAbs_exactUnits]
  unfold ofInt ofRatio ofUnits?
  split <;> exact ⟨rfl, rfl⟩

theorem magnitude_ofInt_nearest (n : Int) (d : Double) :
    distance (ofInt n).magnitude (exactUnits n).natAbs ≤
      distance d.magnitude (exactUnits n).natAbs := by
  rw [(ofInt_eq n).2]
  split
  case isTrue => exact roundMagnitude_nearest _ d
  case isFalse large =>
    -- Rounding goes too far only if the integer is beyond the largest double, and then beyond all.
    have past := roundMagnitude_nearest (exactUnits n).natAbs largest
    have limit : largest.magnitude < tooLarge := largest.representable.2
    have least := magnitude_le_largest d
    unfold distance at past ⊢
    omega

/-- The double of an integer is nearest to it: no double is less far away. -/
theorem ofInt_nearest (n : Int) (d : Double) :
    ((ofInt n).units - exactUnits n).natAbs ≤ (d.units - exactUnits n).natAbs := by
  have nearest := magnitude_ofInt_nearest n d
  have nearZero := magnitude_ofInt_nearest n zero
  have zeroMagnitude : zero.magnitude = 0 := Nat.zero_mul _
  rw [zeroMagnitude] at nearZero
  simp only [units, (ofInt_eq n).1, decide_eq_true_eq, ← exactUnits_neg (n := n)]
  unfold distance at nearest nearZero
  generalize exactUnits n = exact at *
  split <;> split <;> omega

/-- Doubles keep the order of integers. -/
theorem units_ofInt_mono {a b : Int} (ordered : a ≤ b) : (ofInt a).units ≤ (ofInt b).units := by
  rcases Int.lt_or_eq_of_le ordered with less | rfl
  · have apart := exactUnits_lt_exactUnits.mpr less
    have nearA := ofInt_nearest a (ofInt b)
    have nearB := ofInt_nearest b (ofInt a)
    generalize exactUnits a = exactA at *
    generalize exactUnits b = exactB at *
    omega
  · exact Int.le_refl _

/-- Rounding does not go past an integer that is the value of its double. -/
theorem units_ofInt_bounds {n bound m : Int} (exact : (ofInt bound).units = exactUnits bound)
    (rounded : (ofInt n).units = exactUnits m) :
    (bound ≤ n → bound ≤ m) ∧ (n ≤ bound → m ≤ bound) := by
  constructor <;> intro ordered
  · have kept := units_ofInt_mono ordered
    rwa [exact, rounded, exactUnits_le_exactUnits] at kept
  · have kept := units_ofInt_mono ordered
    rwa [exact, rounded, exactUnits_le_exactUnits] at kept

/-- An integer that is the value of some double is the value of its own. -/
theorem units_ofInt_of_units {n : Int} {d : Double} (value : d.units = exactUnits n) :
    (ofInt n).units = exactUnits n := by
  have nearest := ofInt_nearest n d
  rw [value, Int.sub_self, Int.natAbs_zero, Nat.le_zero, Int.natAbs_eq_zero] at nearest
  exact Int.eq_of_sub_eq_zero nearest

/-- An integer of at most 53 binary digits, shifted to the left, is the value of its double. -/
theorem units_ofInt_of_digits {n : Int} (digits exponent : Nat)
    (shifted : n.natAbs = digits * powerOfTwo exponent) (short : digits < powerOfTwo 53)
    (low : 53 + (exponent + 1074) ≤ mostBits) : (ofInt n).units = exactUnits n := by
  have shift : digits * powerOfTwo (exponent + 1074) = (exactUnits n).natAbs := by
    rw [natAbs_exactUnits, shifted, powerOfTwo_add, unitsPerOne, Nat.mul_assoc]
  have magnitude : Representable (exactUnits n).natAbs := shift ▸ representable_shift short low
  refine units_ofInt_of_units (d := ⟨decide (n < 0), (exactUnits n).natAbs, magnitude⟩) ?_
  simp only [units, decide_eq_true_eq, ← exactUnits_neg (n := n)]
  generalize exactUnits n = exact
  split <;> omega

/-- So is `2 ^ 53` itself, shifted to the left. -/
theorem units_ofInt_of_digits_le {n : Int} (digits exponent : Nat)
    (shifted : n.natAbs = digits * powerOfTwo exponent) (short : digits ≤ powerOfTwo 53)
    (low : 53 + (53 + exponent + 1074) ≤ mostBits) : (ofInt n).units = exactUnits n := by
  rcases Nat.lt_or_eq_of_le short with less | rfl
  · have more : exponent + 1074 ≤ 53 + exponent + 1074 :=
      Nat.add_le_add_right (Nat.le_add_left exponent 53) 1074
    exact units_ofInt_of_digits digits exponent shifted less ((Nat.add_le_add_left more 53).trans low)
  · rw [← powerOfTwo_add, ← Nat.one_mul (powerOfTwo _)] at shifted
    exact units_ofInt_of_digits 1 (53 + exponent) shifted (by decide) low

/-- The double of an integer of 64 bits is at most `2 ^ 10` away from it. -/
theorem ofInt_near {n : Int} (bounded : n.natAbs ≤ 0x10000000000000000) :
    ((ofInt n).units - exactUnits n).natAbs ≤ 1024 * unitsPerOne := by
  let nearby := (n + 1024) / 2048 * 2048
  have near : (nearby - n).natAbs ≤ 1024 := by omega
  have shifted : nearby.natAbs = ((n + 1024) / 2048).natAbs * powerOfTwo 11 :=
    Int.natAbs_mul _ _
  have limit : powerOfTwo 53 = 9007199254740992 := rfl
  have value := units_ofInt_of_digits_le _ 11 shifted (by omega) (by decide)
  calc ((ofInt n).units - exactUnits n).natAbs
      ≤ ((ofInt nearby).units - exactUnits n).natAbs := ofInt_nearest n (ofInt nearby)
    _ = (nearby - n).natAbs * unitsPerOne := by rw [value, natAbs_exactUnits_sub]
    _ ≤ 1024 * unitsPerOne := Nat.mul_le_mul_right _ near

end CommandLink.Double
