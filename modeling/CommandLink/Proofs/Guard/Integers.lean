import CommandLink.Guard.Basic
import CommandLink.Proofs.Number.Rounding
import Mathlib.Order.Defs.LinearOrder

/-!
# Conditions on integers

Integers compare by their doubles. A double may be nearest to several integers, so two different ones
may compare as equal (`Double.Blurred`). All other pairs compare as the integers do, and only for those
do all conditions hold exactly when the relation does (`Condition.holds_integers`). Nothing is blurred
up to `2 ^ 53`, nor among integers of 64 bits that are more than `2 ^ 11` apart.
-/

namespace CommandLink

namespace Double

/-- Two different integers to which the same double is nearest. -/
def Blurred (a b : Int) : Prop :=
  a ≠ b ∧ (ofInt a).units = (ofInt b).units

instance (a b : Int) : Decidable (Blurred a b) :=
  inferInstanceAs (Decidable (_ ∧ _))

/-- Integers of at most 53 binary digits are told apart. -/
theorem not_blurred_of_small {a b : Int} (smallA : a.natAbs ≤ 0x20000000000000)
    (smallB : b.natAbs ≤ 0x20000000000000) : ¬ Blurred a b := by
  have exact {n : Int} (small : n.natAbs ≤ 0x20000000000000) :
      (ofInt n).units = exactUnits n := by
    have unshifted : n.natAbs = n.natAbs * powerOfTwo 0 := (Nat.mul_one _).symm
    exact units_ofInt_of_digits_le _ 0 unshifted small (by decide)
  rintro ⟨differ, same⟩
  rw [exact smallA, exact smallB] at same
  rcases lt_or_gt_of_ne differ with less | greater
  · exact (exactUnits_lt_exactUnits.mpr less).ne same
  · exact (exactUnits_lt_exactUnits.mpr greater).ne' same

/-- Integers of 64 bits that lie further apart than the doubles around them do are told apart. -/
theorem not_blurred_of_apart {a b : Int} (boundedA : a.natAbs ≤ 0x10000000000000000)
    (boundedB : b.natAbs ≤ 0x10000000000000000) (apart : 2048 < (a - b).natAbs) :
    ¬ Blurred a b := by
  rintro ⟨_, same⟩
  have nearA := ofInt_near boundedA
  have nearB := ofInt_near boundedB
  have difference := natAbs_exactUnits_sub a b
  have far : 2048 * unitsPerOne < (a - b).natAbs * unitsPerOne :=
    Nat.mul_lt_mul_of_pos_right apart unitsPerOne_pos
  rw [same] at nearA
  generalize (a - b).natAbs * unitsPerOne = gap at *
  generalize unitsPerOne = unit at *
  generalize exactUnits a = exactA at *
  generalize exactUnits b = exactB at *
  omega

end Double

open Double (Blurred units_ofInt_mono)

/-- Integers compare as they are, except that two that are blurred compare as equal. -/
theorem Value.order_ofInt (a b : Int) :
    (Value.ofInt a).order (.ofInt b) = if Blurred a b then .eq else compare a b := by
  have byUnits : (Value.ofInt a).order (.ofInt b) =
      compare (Double.ofInt a).units (Double.ofInt b).units := rfl
  rw [byUnits]
  split
  case isTrue blurred => exact compare_eq_iff_eq.mpr blurred.2
  case isFalse clear =>
    have apart (differ : a ≠ b) : (Double.ofInt a).units ≠ (Double.ofInt b).units :=
      fun same => clear ⟨differ, same⟩
    rcases lt_trichotomy a b with less | rfl | greater
    · rw [compare_lt_iff_lt.mpr less]
      exact compare_lt_iff_lt.mpr (lt_of_le_of_ne (units_ofInt_mono less.le) (apart less.ne))
    · rw [compare_eq_iff_eq.mpr rfl, compare_eq_iff_eq.mpr rfl]
    · rw [compare_gt_iff_gt.mpr greater]
      exact compare_gt_iff_gt.mpr
        (lt_of_le_of_ne (units_ofInt_mono greater.le) (apart greater.ne').symm)

namespace Operator

/-- The relation that an operator stands for. -/
def Relates : Operator → Int → Int → Prop
  | .lt, a, b => a < b
  | .gt, a, b => a > b
  | .le, a, b => a ≤ b
  | .ge, a, b => a ≥ b
  | .eq, a, b => a = b
  | .ne, a, b => a ≠ b

theorem accepts_compare (operator : Operator) (a b : Int) :
    operator.accepts (compare a b) = true ↔ operator.Relates a b := by
  rcases lt_trichotomy a b with less | rfl | greater
  · rw [compare_lt_iff_lt.mpr less]
    cases operator <;> simp [accepts, Relates] <;> omega
  · rw [compare_eq_iff_eq.mpr rfl]
    cases operator <;> simp [accepts, Relates]
  · rw [compare_gt_iff_gt.mpr greater]
    cases operator <;> simp [accepts, Relates] <;> omega

theorem accepts_eq (operator : Operator) :
    operator.accepts .eq = true ↔ operator = .le ∨ operator = .ge ∨ operator = .eq := by
  cases operator <;> decide

end Operator

/-- Where a property is an integer, the conditions that compare it with another one hold exactly when
the relations do, unless the two are blurred: then the conditions that allow equality hold, and no
others. So all six are right if and only if the two are not blurred, which they are not if both are
small, or of 64 bits and far enough apart. -/
theorem Condition.holds_integers {read : Text → Option Value} {path : Text} {a : Int}
    (current : read path = some (.ofInt a)) (b : Int) :
    ((Value.ofInt a).order (.ofInt b) = compare a b ↔ ¬ Blurred a b) ∧
      (∀ operator, (⟨path, operator, .ofInt b⟩ : Condition).holds read = true ↔
        if Blurred a b then operator = .le ∨ operator = .ge ∨ operator = .eq
        else operator.Relates a b) ∧
      ((∀ operator, (⟨path, operator, .ofInt b⟩ : Condition).holds read = true ↔
        operator.Relates a b) ↔ ¬ Blurred a b) ∧
      (a.natAbs ≤ 0x20000000000000 → b.natAbs ≤ 0x20000000000000 → ¬ Blurred a b) ∧
      (a.natAbs ≤ 0x10000000000000000 → b.natAbs ≤ 0x10000000000000000 →
        2048 < (a - b).natAbs → ¬ Blurred a b) := by
  have accepted (operator : Operator) : (⟨path, operator, .ofInt b⟩ : Condition).holds read =
      operator.accepts (if Blurred a b then .eq else compare a b) := by
    simp only [holds, current, Value.order_ofInt]
  have held (operator : Operator) : (⟨path, operator, .ofInt b⟩ : Condition).holds read = true ↔
      if Blurred a b then operator = .le ∨ operator = .ge ∨ operator = .eq
      else operator.Relates a b := by
    rw [accepted]
    split
    case isTrue => exact operator.accepts_eq
    case isFalse => exact operator.accepts_compare a b
  refine ⟨?_, held, ?_, Double.not_blurred_of_small, Double.not_blurred_of_apart⟩
  · rw [Value.order_ofInt]
    split
    case isTrue blurred =>
      simp only [blurred, not_true_eq_false, iff_false]
      exact fun equal => blurred.1 (compare_eq_iff_eq.mp equal.symm)
    case isFalse clear => simp only [clear, not_false_eq_true]
  · constructor
    · intro right blurred
      have equal := held .eq
      rw [if_pos blurred] at equal
      exact blurred.1 ((right .eq).mp (equal.mpr (.inr (.inr rfl))))
    · intro clear operator
      rw [held, if_neg clear]

/-- A number of bytes that needs all 64 bits is more than one that fits into 63, if they are far enough
apart. -/
theorem Condition.holds_integers_bytes :
    let read : Text → Option Value := fun path =>
      if path = "Free" then some (.ofInt 9223372036854775808) else none
    read "Free" = some (.ofInt 9223372036854775808) ∧
      parse "Free > 9223372036854773000" = .ok ⟨"Free", .gt, .ofInt 9223372036854773000⟩ ∧
      (⟨"Free", .gt, .ofInt 9223372036854773000⟩ : Condition).holds read = true := by
  intro read
  have current : read "Free" = some (.ofInt 9223372036854775808) := if_pos rfl
  obtain ⟨_, _, right, _, apart⟩ := holds_integers current 9223372036854773000
  have clear := apart (by decide) (by decide) (by decide)
  exact ⟨current, by decide +kernel, (right.mpr clear .gt).mpr (by decide : (_ : Int) > _)⟩

/-- The first integer that no double has is not more than the one before it. -/
theorem Condition.exists_greater_not_holds :
    (9007199254740993 : Int) > 9007199254740992 ∧
      (Value.ofInt 9007199254740993).order (.ofInt 9007199254740992) = .eq ∧
      parse "Free > 9007199254740992" = .ok ⟨"Free", .gt, .ofInt 9007199254740992⟩ ∧
      (⟨"Free", .gt, .ofInt 9007199254740992⟩ : Condition).holds
        (fun _ => some (.ofInt 9007199254740993)) = false := by
  decide +kernel

end CommandLink
