import CommandLink.Kind.Conversion
import CommandLink.Proofs.Number.Rounding
import Mathlib.Algebra.Order.Field.Rat
import Mathlib.Data.Rat.Cast.Lemmas

/-!
# Numbers that are integers

A number fits the kind `Int` if its exact value is an integer of 64 bits, whether it is held as an
integer or as a double, and it keeps its value then. There is one exception: the smallest integer of 64
bits does not fit when it is held as a double (`Kind.isSome_fit?_int_iff`).
-/

namespace CommandLink

namespace Double

variable {d : Double} {n : Int}

/-- The exact value of a double. -/
def value (d : Double) : ℚ := d.units / unitsPerOne

theorem value_eq_iff : d.value = n ↔ d.units = exactUnits n := by
  have positive : (unitsPerOne : ℚ) ≠ 0 := Nat.cast_ne_zero.mpr unitsPerOne_pos.ne'
  rw [value, div_eq_iff positive, exactUnits]
  exact_mod_cast Iff.rfl

theorem dvd_magnitude_iff : unitsPerOne ∣ d.magnitude ↔ (unitsPerOne : Int) ∣ d.units := by
  unfold units
  split
  · rw [Int.dvd_neg, Int.natCast_dvd_natCast]
  · rw [Int.natCast_dvd_natCast]

/-- The integer that a double is has the same value. -/
theorem toInt?_eq_some_iff : d.toInt? = some n ↔ d.value = n := by
  have positive : (unitsPerOne : Int) ≠ 0 := Int.natCast_ne_zero.mpr unitsPerOne_pos.ne'
  rw [toInt?, value_eq_iff, exactUnits]
  split
  case isTrue divides =>
    rw [Option.some.injEq]
    exact Int.ediv_eq_iff_eq_mul_left positive (dvd_magnitude_iff.mp divides)
  case isFalse remains =>
    simp only [reduceCtorEq, false_iff]
    exact fun whole => remains (dvd_magnitude_iff.mpr (whole ▸ Int.dvd_mul_left _ _))

end Double

namespace Number

/-- The exact value of a number. -/
def value : Number → ℚ
  | .integer n => n
  | .float d => d.value

/-- The smallest integer of 64 bits, held as a double. -/
def IsLeastDouble (number : Number) : Prop :=
  ∃ d, number = .float d ∧ d.value = (-0x8000000000000000 : Int)

end Number

namespace Kind

theorem fitsInt64_iff {n : Int} :
    fitsInt64 n = true ↔ -0x8000000000000000 ≤ n ∧ n < 0x8000000000000000 := by
  simp [fitsInt64]

/-- The integer that a number is has the same value, and all integers of 64 bits are found but for the
smallest one as a double. -/
theorem integer?_eq_some_iff {number : Number} {n : Int} :
    integer? number = some n ↔
      number.value = n ∧ fitsInt64 n = true ∧ ¬ number.IsLeastDouble := by
  cases number with
  | integer m =>
      have other : ¬ (Number.integer m).IsLeastDouble := by
        rintro ⟨d, isFloat, _⟩
        cases isFloat
      simp only [integer?, Number.value, Rat.intCast_inj, other, not_false_eq_true, and_true]
      constructor
      · intro found
        split at found
        case isTrue fits =>
          cases found
          exact ⟨rfl, fits⟩
        case isFalse => cases found
      · rintro ⟨rfl, fits⟩
        exact if_pos fits
  | float d =>
      have least : (Number.float d).IsLeastDouble ↔ d.value = (-0x8000000000000000 : Int) := by
        simp [Number.IsLeastDouble]
      rw [integer?, Option.filter_eq_some_iff, Double.toInt?_eq_some_iff, least, fitsInt64_iff,
        decide_eq_true_eq]
      refine and_congr_right fun same => ?_
      have isLeast : d.value = (-0x8000000000000000 : Int) ↔ n = -0x8000000000000000 := by
        rw [same, Rat.intCast_inj]
      change n.natAbs < 0x8000000000000000 ↔ _
      rw [isLeast]
      omega

/-- The smallest integer of 64 bits and the first one above them are the values of their doubles. -/
theorem units_ofInt_limits :
    (Double.ofInt (-0x8000000000000000)).units = Double.exactUnits (-0x8000000000000000) ∧
      (Double.ofInt 0x8000000000000000).units = Double.exactUnits 0x8000000000000000 :=
  ⟨Double.units_ofInt_of_digits 1 63 rfl (by decide) (by decide),
    Double.units_ofInt_of_digits 1 63 rfl (by decide) (by decide)⟩

/-- Integers beyond 64 bits need not be looked at as doubles: those do not fit either. -/
theorem integer?_ofInt_of_not_fits {n : Int} (beyond : fitsInt64 n = false) :
    integer? (.float (Double.ofInt n)) = none := by
  obtain ⟨low, high⟩ := units_ofInt_limits
  refine Option.eq_none_iff_forall_ne_some.mpr fun m found => ?_
  obtain ⟨same, fits, other⟩ := integer?_eq_some_iff.mp found
  have rounded := Double.value_eq_iff.mp same
  have notLeast : m ≠ -0x8000000000000000 := fun least => other ⟨_, rfl, least ▸ same⟩
  have above := (Double.units_ofInt_bounds high rounded).1
  have below := (Double.units_ofInt_bounds low rounded).2
  have outside : ¬ (-0x8000000000000000 ≤ n ∧ n < 0x8000000000000000) := by
    rw [← fitsInt64_iff, beyond]
    exact Bool.false_ne_true
  rw [fitsInt64_iff] at fits
  omega

/-- A number fits the kind `Int` exactly if its value is an integer of 64 bits, unless it is the
smallest of them, held as a double. What it is fitted to has the same value. -/
theorem isSome_fit?_int_iff (number : Number) :
    ((fit? .int (.number number)).isSome = true ↔
      (∃ n : Int, number.value = n ∧ -0x8000000000000000 ≤ n ∧ n < 0x8000000000000000) ∧
        ¬ number.IsLeastDouble) ∧
      ∀ fitted, fit? .int (.number number) = some fitted →
        ∃ n : Int, fitted = .ofInt n ∧ number.value = n := by
  constructor
  · rw [fit?, Option.isSome_map, Option.isSome_iff_exists]
    simp only [integer?_eq_some_iff, fitsInt64_iff]
    constructor
    · rintro ⟨n, same, fits, other⟩
      exact ⟨⟨n, same, fits⟩, other⟩
    · rintro ⟨⟨n, same, fits⟩, other⟩
      exact ⟨n, same, fits, other⟩
  · intro fitted fits
    obtain ⟨n, found, rfl⟩ := Option.map_eq_some_iff.mp fits
    exact ⟨n, rfl, (integer?_eq_some_iff.mp found).1⟩

/-- The smallest integer of 64 bits fits as it is, but not with a fraction of zero behind it. -/
theorem exists_integer_not_fitted :
    ∃ number, Value.read? "-9223372036854775808.0" = some (.number number) ∧
      number.value = (-0x8000000000000000 : Int) ∧ fit? .int (.number number) = none ∧
      convert none none "-9223372036854775808.0" .int =
        .error (.ofKind "-9223372036854775808.0" .int) ∧
      convert none none "-9223372036854775808" .int = .ok (.ofInt (-0x8000000000000000)) := by
  refine ⟨.float (Double.ofInt (-0x8000000000000000)), by decide +kernel,
    Double.value_eq_iff.mpr units_ofInt_limits.1, by decide +kernel, ?_, ?_⟩
  · decide +kernel
  · decide +kernel

end Kind

end CommandLink
