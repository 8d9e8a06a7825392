import CommandLink.Line.Arguments
import Mathlib.Data.List.Basic
import Mathlib.Data.List.TakeWhile

/-!
# What a scan passes over

How the scan of an argument section goes on from one position to another without a cut. `Skips` is
that as a relation between what is left of the text before and after, as a reader sees it, so that
it follows a reader step by step.
-/

namespace CommandLink.Arguments

/-- A character that means nothing to the scan outside quotes. -/
def isPlain (c : Char) : Bool :=
  !(['"', ',', '[', ']', '{', '}'].contains c)

/-- A character is plain if it has what none of the others has. -/
theorem isPlain_of {has : Char → Bool} {c : Char} (given : has c = true)
    (others : ['"', ',', '[', ']', '{', '}'].any has = false) : isPlain c = true := by
  rw [List.any_eq_false] at others
  rw [isPlain, Bool.not_eq_true', List.contains_eq_mem, decide_eq_false_iff_not]
  intro member
  exact others c member given

/-- From the position `before` the scan passes over what stands in `text` before `rest`, cuts
nowhere, and is at the position `after`. -/
def Skips (before after : Position) (text rest : Text) : Prop :=
  ∃ front, text = front ++ rest ∧ ∀ later,
    pieces before (front ++ later) = (pieces after later).modifyHead (front ++ ·)

namespace Skips

variable {before middle after : Position} {text between rest : Text}

theorem refl (position : Position) (text : Text) : Skips position position text text := by
  refine ⟨[], rfl, ?_⟩
  intro later
  rw [List.nil_append]
  cases pieces position later <;> rfl

theorem trans (first : Skips before middle text between) (second : Skips middle after between rest) :
    Skips before after text rest := by
  obtain ⟨front, rfl, passesFront⟩ := first
  obtain ⟨back, rfl, passesBack⟩ := second
  refine ⟨front ++ back, (List.append_assoc front back rest).symm, ?_⟩
  intro later
  rw [List.append_assoc, passesFront, passesBack, List.modifyHead_modifyHead]
  simp only [Function.comp_def, List.append_assoc]

/-- A character at which the scan does not cut. -/
theorem char {c : Char} (position : Position) (joined : position.separates c = false)
    (rest : Text) : Skips position (position.next c) (c :: rest) rest := by
  refine ⟨[c], rfl, ?_⟩
  intro later
  simp [pieces, joined]

theorem plain {c : Char} (isPlain : isPlain c = true) (depth : Nat) (rest : Text) :
    Skips ⟨depth, .outside⟩ ⟨depth, .outside⟩ (c :: rest) rest := by
  simp only [Arguments.isPlain, Bool.not_eq_true', List.contains_eq_mem, List.mem_cons,
    List.not_mem_nil, or_false, decide_eq_false_iff_not, not_or] at isPlain
  have joined : (⟨depth, .outside⟩ : Position).separates c = false := by
    simp [Position.separates, isPlain]
  have stays : (⟨depth, .outside⟩ : Position).next c = ⟨depth, .outside⟩ := by
    simp [Position.next, isPlain]
  have passed := char ⟨depth, .outside⟩ joined rest
  rwa [stays] at passed

theorem append_plain (front : Text) (arePlain : ∀ c ∈ front, isPlain c = true) (depth : Nat)
    (rest : Text) : Skips ⟨depth, .outside⟩ ⟨depth, .outside⟩ (front ++ rest) rest := by
  induction front with
  | nil => exact refl _ rest
  | cons c front inductionHypothesis =>
      rw [List.forall_mem_cons] at arePlain
      exact (plain arePlain.1 depth (front ++ rest)).trans (inductionHypothesis arePlain.2)

/-- A word that is written out. -/
theorem word (front : Text) (arePlain : front.all isPlain = true) (depth : Nat) (rest : Text) :
    Skips ⟨depth, .outside⟩ ⟨depth, .outside⟩ (front ++ rest) rest :=
  append_plain front (List.all_eq_true.mp arePlain) depth rest

theorem takeWhile {keep : Char → Bool} (arePlain : ∀ c, keep c = true → isPlain c = true)
    (depth : Nat) (text : Text) :
    Skips ⟨depth, .outside⟩ ⟨depth, .outside⟩ text (text.dropWhile keep) := by
  have passed := append_plain (text.takeWhile keep)
    (fun c member => arePlain c (List.mem_takeWhile_imp member)) depth (text.dropWhile keep)
  rwa [List.takeWhile_append_dropWhile] at passed

/-- A comma inside brackets. -/
theorem comma (depth : Nat) (rest : Text) :
    Skips ⟨depth + 1, .outside⟩ ⟨depth + 1, .outside⟩ (',' :: rest) rest :=
  char ⟨depth + 1, .outside⟩ rfl rest

theorem bracket (depth : Nat) (rest : Text) :
    Skips ⟨depth, .outside⟩ ⟨depth + 1, .outside⟩ ('[' :: rest) rest :=
  char ⟨depth, .outside⟩ rfl rest

theorem bracketEnd (depth : Nat) (rest : Text) :
    Skips ⟨depth + 1, .outside⟩ ⟨depth, .outside⟩ (']' :: rest) rest :=
  char ⟨depth + 1, .outside⟩ rfl rest

theorem brace (depth : Nat) (rest : Text) :
    Skips ⟨depth, .outside⟩ ⟨depth + 1, .outside⟩ ('{' :: rest) rest :=
  char ⟨depth, .outside⟩ rfl rest

theorem braceEnd (depth : Nat) (rest : Text) :
    Skips ⟨depth + 1, .outside⟩ ⟨depth, .outside⟩ ('}' :: rest) rest :=
  char ⟨depth + 1, .outside⟩ rfl rest

theorem quote (depth : Nat) (rest : Text) :
    Skips ⟨depth, .outside⟩ ⟨depth, .inside⟩ ('"' :: rest) rest :=
  char ⟨depth, .outside⟩ rfl rest

theorem quoteEnd (depth : Nat) (rest : Text) :
    Skips ⟨depth, .inside⟩ ⟨depth, .outside⟩ ('"' :: rest) rest :=
  char ⟨depth, .inside⟩ (by simp [Position.separates]) rest

/-- Inside quotes only a quote and a backslash matter. -/
theorem quoted {c : Char} (notQuote : c ≠ '"') (notBackslash : c ≠ '\\') (depth : Nat)
    (rest : Text) : Skips ⟨depth, .inside⟩ ⟨depth, .inside⟩ (c :: rest) rest := by
  have passed := char (c := c) ⟨depth, .inside⟩ (by simp [Position.separates]) rest
  simpa [Position.next, notQuote, notBackslash] using passed

/-- A backslash takes the next character along, whatever it is. -/
theorem escape (c : Char) (depth : Nat) (rest : Text) :
    Skips ⟨depth, .inside⟩ ⟨depth, .inside⟩ ('\\' :: c :: rest) rest := by
  have backslash := char (c := '\\') ⟨depth, .inside⟩ (by simp [Position.separates]) (c :: rest)
  have behind := char (c := c) ⟨depth, .escaped⟩ (by simp [Position.separates]) rest
  exact backslash.trans behind

theorem append_right (skips : Skips before after text rest) (more : Text) :
    Skips before after (text ++ more) (rest ++ more) := by
  obtain ⟨front, rfl, passes⟩ := skips
  exact ⟨front, List.append_assoc front rest more, passes⟩

/-- A text that is passed over to its end is one piece. -/
theorem pieces_eq_singleton (skips : Skips before after text []) : pieces before text = [text] := by
  obtain ⟨front, rfl, passes⟩ := skips
  rw [passes, pieces, List.modifyHead_cons]

/-- What is passed over at the front is one piece with what follows. -/
theorem pieces_eq (skips : Skips before after (text ++ rest) rest) :
    pieces before (text ++ rest) = (pieces after rest).modifyHead (text ++ ·) := by
  obtain ⟨front, same, passes⟩ := skips
  obtain rfl := List.append_cancel_right same
  exact passes rest

end Skips

end CommandLink.Arguments
