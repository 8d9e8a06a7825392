import CommandLink.Value.Printer
import Mathlib.Data.List.Basic

/-!
# Characters of numbers

The text of a number, as an integer or as a double in whatever style, is made of digits, signs, a
point and the letter of the exponent (`isNumeric_of_mem_numberText`).
-/

namespace CommandLink

/-- The characters that numbers are written with. -/
def isNumeric (c : Char) : Bool :=
  c.isDigit || ['-', '+', '.', 'e'].contains c

theorem isNumeric_of_mem_ofNat (n : Nat) : ∀ c ∈ Text.ofNat n, isNumeric c = true := by
  intro c member
  have digit : c.isDigit = true := Nat.isDigit_of_mem_toDigits (by decide) (by decide) member
  rw [isNumeric, digit, Bool.true_or]

theorem isNumeric_of_mem_ofInt (n : Int) : ∀ c ∈ Text.ofInt n, isNumeric c = true := by
  cases n with
  | ofNat n => exact isNumeric_of_mem_ofNat n
  | negSucc n => exact List.forall_mem_cons.mpr ⟨rfl, isNumeric_of_mem_ofNat (n + 1)⟩

namespace Shortest

variable {digits : Text} {style : Style}

theorem isNumeric_of_mem_replicate (count : Nat) :
    ∀ c ∈ List.replicate count '0', isNumeric c = true := by
  intro c member
  obtain rfl := List.eq_of_mem_replicate member
  rfl

/-- The point may stand behind the digits, among them, or in front of them. -/
theorem isNumeric_of_mem_positional (numeric : ∀ c ∈ digits, isNumeric c = true)
    (exponent : Int) : ∀ c ∈ positional digits exponent, isNumeric c = true := by
  unfold positional
  split
  case h_1 power =>
    simp only [List.forall_mem_append]
    exact ⟨⟨numeric, isNumeric_of_mem_replicate power⟩, List.all_eq_true.mp (by decide)⟩
  case h_2 power =>
    split
    · simp only [List.forall_mem_append]
      exact ⟨⟨fun c member => numeric c (List.mem_of_mem_take member),
          List.all_eq_true.mp (by decide)⟩,
        fun c member => numeric c (List.mem_of_mem_drop member)⟩
    · simp only [List.forall_mem_append]
      exact ⟨⟨List.all_eq_true.mp (by decide), isNumeric_of_mem_replicate _⟩, numeric⟩

theorem isNumeric_of_mem_scientific (numeric : ∀ c ∈ digits, isNumeric c = true)
    (leading : Int) : ∀ c ∈ scientific digits leading, isNumeric c = true := by
  simp only [scientific, List.forall_mem_append]
  refine ⟨⟨?_, ?_⟩, isNumeric_of_mem_ofNat _⟩
  · split
    · simp
    · exact numeric
    · rw [List.forall_mem_cons] at numeric
      exact List.forall_mem_cons.mpr ⟨numeric.1, List.forall_mem_cons.mpr ⟨rfl, numeric.2⟩⟩
  · split <;> exact List.all_eq_true.mp (by decide)

theorem isNumeric_of_mem_text (d : Double) : ∀ c ∈ text style d, isNumeric c = true := by
  have sign : ∀ c ∈ (if d.negative then "-".toList else "".toList), isNumeric c = true := by
    split <;> exact List.all_eq_true.mp (by decide)
  unfold text
  dsimp only
  split
  · exact List.forall_mem_append.mpr ⟨sign, List.all_eq_true.mp (by decide)⟩
  · refine List.forall_mem_append.mpr ⟨sign, ?_⟩
    split
    · exact isNumeric_of_mem_positional (isNumeric_of_mem_ofNat _) _
    · exact isNumeric_of_mem_scientific (isNumeric_of_mem_ofNat _) _

end Shortest

theorem Value.isNumeric_of_mem_numberText (number : Number) :
    ∀ c ∈ numberText number, isNumeric c = true := by
  cases number with
  | integer n => exact isNumeric_of_mem_ofInt n
  | float d => exact Shortest.isNumeric_of_mem_text d

end CommandLink
