import CommandLink.Text.Basic
import Mathlib.Data.List.Basic
import Mathlib.Data.List.DropRight
import Mathlib.Data.List.TakeWhile

/-!
# Trimming and cutting

What stripping leaves of a text, and where cutting takes it apart.
-/

namespace CommandLink.Text

/-- Characters that are stripped do not count at the end of a text. -/
theorem strip_append_right (drop : Char → Bool) (text : Text) {ending : Text}
    (dropped : ∀ c ∈ ending, drop c = true) : strip drop (text ++ ending) = strip drop text := by
  have nothing : ending.dropWhile drop = [] := List.dropWhile_eq_nil_iff.mpr dropped
  have reversed : ∀ c ∈ ending.reverse, drop c = true := by simpa using dropped
  unfold strip
  rw [List.dropWhile_append]
  split
  case isTrue empty =>
      rw [nothing, List.isEmpty_iff.mp empty]
  case isFalse filled =>
      rw [List.reverse_append, List.dropWhile_append_of_pos reversed]

/-- A text whose ends are not stripped stays as it is. -/
theorem strip_eq_self {drop : Char → Bool} {text : Text} (first : ∀ c ∈ text.head?, drop c = false)
    (last : ∀ c ∈ text.getLast?, drop c = false) : strip drop text = text := by
  have kept : ∀ text : Text, (∀ c ∈ text.head?, drop c = false) → text.dropWhile drop = text := by
    intro text first
    cases text with
    | nil => rfl
    | cons c text => simp [first c rfl]
  unfold strip
  rw [kept text first, kept text.reverse (by simpa using last), List.reverse_reverse]

/-- A text is what stripping leaves of it between characters that are stripped. -/
theorem exists_eq_append_strip (drop : Char → Bool) (text : Text) :
    ∃ front back, text = front ++ strip drop text ++ back ∧ (∀ c ∈ front, drop c = true) ∧
      ∀ c ∈ back, drop c = true := by
  refine ⟨text.takeWhile drop, ((text.dropWhile drop).reverse.takeWhile drop).reverse, ?_, ?_, ?_⟩
  · rw [strip, List.append_assoc, ← List.reverse_append, List.takeWhile_append_dropWhile,
      List.reverse_reverse, List.takeWhile_append_dropWhile]
  · intro c member
    exact List.mem_takeWhile_imp member
  · intro c member
    exact List.mem_takeWhile_imp (List.mem_reverse.mp member)

/-- Stripping leaves a kept character in front. -/
theorem of_mem_head?_strip {drop : Char → Bool} {text : Text} {c : Char}
    (head : c ∈ (strip drop text).head?) : drop c = false := by
  obtain ⟨rest, whole⟩ : strip drop text <+: text.dropWhile drop := by
    have rear : (text.dropWhile drop).reverse.dropWhile drop <:+ (text.dropWhile drop).reverse :=
      List.dropWhile_suffix drop
    simpa [strip] using List.reverse_prefix.mpr rear
  have kept := List.head?_dropWhile_not drop text
  rw [← whole, Option.mem_def.mp (List.mem_head?_append_of_mem_head? head)] at kept
  simpa using kept

/-- Stripping leaves a kept character at the end. -/
theorem of_mem_getLast?_strip {drop : Char → Bool} {text : Text} {c : Char}
    (last : c ∈ (strip drop text).getLast?) : drop c = false := by
  have kept := List.head?_dropWhile_not drop (text.dropWhile drop).reverse
  rw [strip, List.getLast?_reverse] at last
  rw [Option.mem_def.mp last] at kept
  simpa using kept

/-- Nothing is left to strip of a text that was stripped. -/
theorem strip_strip (drop : Char → Bool) (text : Text) :
    strip drop (strip drop text) = strip drop text :=
  strip_eq_self (fun _ => of_mem_head?_strip) fun _ => of_mem_getLast?_strip

theorem trim_trim (text : Text) : trim (trim text) = trim text :=
  strip_strip isBlank text

theorem map_trim_eq_self {texts : List Text} (trimmed : ∀ text ∈ texts, trim text = text) :
    texts.map trim = texts :=
  (List.map_congr_left trimmed).trans (List.map_id texts)

/-- Trimming adds nothing. -/
theorem trim_subset (text : Text) : trim text ⊆ text := by
  obtain ⟨front, back, whole, _⟩ := exists_eq_append_strip isBlank text
  intro c member
  rw [whole]
  exact List.mem_append_left back (List.mem_append_right front member)

/-- White space does not count at the end of a text. -/
theorem trim_append_right (text : Text) {ending : Text} (blank : ∀ c ∈ ending, isBlank c = true) :
    trim (text ++ ending) = trim text :=
  strip_append_right isBlank text blank

/-- Nor does it count in front of a text. -/
theorem trim_cons_of_isBlank {c : Char} (blank : isBlank c = true) (text : Text) :
    trim (c :: text) = trim text := by
  rw [trim, trim, strip, strip, List.dropWhile_cons_of_pos blank]

theorem trim_dropWhile (text : Text) : trim (text.dropWhile isBlank) = trim text := by
  rw [trim, trim, strip, strip, List.dropWhile_idempotent]

/-- A character that is kept keeps all behind it. -/
theorem dropWhile_append_cons {drop : Char → Bool} {c : Char} (kept : drop c = false)
    (front back : Text) :
    (front ++ c :: back).dropWhile drop = front.dropWhile drop ++ c :: back := by
  rw [List.dropWhile_append]
  split
  case isTrue none => simp [List.isEmpty_iff.mp none, kept]
  case isFalse => rfl

/-- Around a character that is not blank a text is trimmed at either side. -/
theorem trim_append_cons {c : Char} (solid : isBlank c = false) (front back : Text) :
    trim (front ++ c :: back) = front.dropWhile isBlank ++ c :: back.rdropWhile isBlank := by
  rw [trim, strip, dropWhile_append_cons solid, List.reverse_append, List.reverse_cons,
    List.append_assoc, List.singleton_append, dropWhile_append_cons solid]
  simp [List.rdropWhile]

/-- There is nothing to cut at. -/
theorem cut_of_not_mem {separator : Char} {text : Text} (absent : separator ∉ text) :
    cut separator text = (text, none) := by
  have kept : ∀ c ∈ text, (c != separator) = true := fun c member => by
    simpa using ne_of_mem_of_not_mem member absent
  rw [cut, List.takeWhile_eq_self_iff.mpr kept, List.dropWhile_eq_nil_iff.mpr kept]

/-- The first separator is where a text is cut. -/
theorem cut_append_cons {separator : Char} {front : Text} (absent : separator ∉ front)
    (rest : Text) : cut separator (front ++ separator :: rest) = (front, some rest) := by
  have kept : ∀ c ∈ front, (c != separator) = true := fun c member => by
    simpa using ne_of_mem_of_not_mem member absent
  rw [cut, List.takeWhile_append_of_pos kept, List.dropWhile_append_of_pos kept]
  simp

/-- There is nothing to cut at in a text, or it has a first separator. -/
theorem cut_cases (separator : Char) (text : Text) :
    separator ∉ text ∧ cut separator text = (text, none) ∨
      ∃ front rest, separator ∉ front ∧ text = front ++ separator :: rest ∧
        cut separator text = (front, some rest) := by
  by_cases present : separator ∈ text
  · obtain ⟨front, rest, rfl, absent⟩ := List.eq_append_cons_of_mem present
    exact .inr ⟨front, rest, absent, rfl, cut_append_cons absent rest⟩
  · exact .inl ⟨present, cut_of_not_mem present⟩

/-- No part of a text between separators holds a separator, or anything else that is not in the
text. -/
theorem of_mem_splitOn {separator : Char} {text part : Text}
    (member : part ∈ text.splitOn separator) : separator ∉ part ∧ part ⊆ text := by
  induction text generalizing part with
  | nil =>
      rw [List.splitOn_nil, List.mem_singleton] at member
      simp [member]
  | cons c text inductionHypothesis =>
      obtain ⟨first, rest, cut⟩ :=
        List.exists_cons_of_ne_nil (List.splitOn_ne_nil separator text)
      rw [List.splitOn_eq_splitOnP, List.splitOnP_cons_eq_if_modifyHead, ← List.splitOn_eq_splitOnP,
        cut] at member
      rw [cut] at inductionHypothesis
      split at member
      case isTrue =>
        rcases List.mem_cons.mp member with rfl | later
        · simp
        · obtain ⟨absent, inside⟩ := inductionHypothesis later
          exact ⟨absent, List.subset_cons_of_subset c inside⟩
      case isFalse other =>
        rcases List.mem_cons.mp member with rfl | later
        · obtain ⟨absent, inside⟩ := inductionHypothesis List.mem_cons_self
          have different : separator ≠ c := fun same => other (by simp [same])
          exact ⟨by simp [different, absent], List.cons_subset_cons c inside⟩
        · obtain ⟨absent, inside⟩ := inductionHypothesis (List.mem_cons_of_mem first later)
          exact ⟨absent, List.subset_cons_of_subset c inside⟩

end CommandLink.Text
