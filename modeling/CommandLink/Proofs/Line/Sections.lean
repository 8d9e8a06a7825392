import CommandLink.Proofs.Line.Documents
import CommandLink.Proofs.Line.Values

/-!
# Argument sections

Which lists of arguments a scan can give (`isSection_scan`), and that it gives each of them again when
they are joined with commas (`IsSection.scan_join`). The scan is back where it began before each comma
that it cuts at, so that the arguments can be looked at one by one. White space at the ends of an
argument does not move the scan from there, and goes.
-/

namespace CommandLink

namespace Text

variable {texts : List Text} {separator : Char}

theorem join_cons (separator text : Text) (filled : texts ≠ []) :
    join separator (text :: texts) = text ++ separator ++ join separator texts := by
  obtain ⟨next, texts, rfl⟩ := List.exists_cons_of_ne_nil filled
  simp [join, List.intercalate_cons_cons]

theorem join_singleton (separator text : Text) : join separator [text] = text := by
  simp [join]

/-- No end of joined texts is blank. -/
theorem tight_join (solid : isBlank separator = false) (tight : ∀ text ∈ texts, text.Tight) :
    (join [separator] texts).Tight := by
  induction texts with
  | nil => exact tight_nil
  | cons text texts inductionHypothesis =>
      rw [List.forall_mem_cons] at tight
      by_cases last : texts = []
      · rw [last, join_singleton]
        exact tight.1
      · rw [join_cons _ text last, List.append_assoc, List.singleton_append]
        exact tight.1.append_cons solid (inductionHypothesis tight.2)

end Text

namespace Arguments

namespace Position

/-- The position after a text. -/
def after (position : Position) (text : Text) : Position :=
  text.foldl next position

/-- A scan that begins at a position does not cut a text. -/
def Keeps (position : Position) (text : Text) : Prop :=
  pieces position text = [text]

variable {position : Position} {c : Char} {front back text : Text}

theorem after_append : position.after (front ++ back) = (position.after front).after back :=
  List.foldl_append

theorem keeps_cons_iff :
    position.Keeps (c :: text) ↔ position.separates c = false ∧ (position.next c).Keeps text := by
  rw [Keeps, Keeps, pieces]
  cases position.separates c with
  | true => simp
  | false => cases pieces (position.next c) text <;> simp

theorem keeps_append_iff :
    position.Keeps (front ++ back) ↔ position.Keeps front ∧ (position.after front).Keeps back := by
  induction front generalizing position with
  | nil => simp [Keeps, pieces, after]
  | cons c front inductionHypothesis =>
      rw [List.cons_append, keeps_cons_iff, keeps_cons_iff, inductionHypothesis, and_assoc]
      rfl

theorem Keeps.skips (keeps : position.Keeps text) :
    Skips position (position.after text) text [] := by
  induction text generalizing position with
  | nil => exact .refl position []
  | cons c text inductionHypothesis =>
      obtain ⟨joined, keepsRest⟩ := keeps_cons_iff.mp keeps
      exact (Skips.char position joined text).trans (inductionHypothesis keepsRest)

/-- No character that means nothing outside quotes leads to the beginning from anywhere else: it
neither closes a bracket nor a quote. -/
theorem next_eq_start_iff (plain : isPlain c = true) :
    position.next c = start ↔ position = start := by
  simp only [isPlain, Bool.not_eq_true', List.contains_eq_mem, List.mem_cons, List.not_mem_nil,
    or_false, decide_eq_false_iff_not, not_or] at plain
  obtain ⟨depth, quoting⟩ := position
  cases quoting with
  | outside => simp [next, plain]
  | inside => by_cases backslash : c = '\\' <;> simp [next, start, plain, backslash]
  | escaped => simp [next, start]

theorem after_eq_start_iff (plain : ∀ c ∈ text, isPlain c = true) :
    position.after text = start ↔ position = start := by
  induction text generalizing position with
  | nil => rfl
  | cons c text inductionHypothesis =>
      rw [List.forall_mem_cons] at plain
      exact (inductionHypothesis plain.2).trans (next_eq_start_iff plain.1)

/-- White space around a text neither cuts it nor leads back to the beginning. -/
theorem trim_of_keeps (keeps : start.Keeps text) :
    start.Keeps (Text.trim text) ∧
      (start.after text = start → start.after (Text.trim text) = start) := by
  obtain ⟨front, back, whole, blankFront, blankBack⟩ := Text.exists_eq_append_strip isBlank text
  rw [← Text.trim] at whole
  have beginning : start.after front = start :=
    (after_eq_start_iff fun c member => isPlain_of_isBlank (blankFront c member)).mpr rfl
  rw [whole, keeps_append_iff, keeps_append_iff, beginning] at keeps
  refine ⟨keeps.1.2, fun closed => ?_⟩
  rw [whole, after_append, after_append, beginning] at closed
  exact (after_eq_start_iff fun c member => isPlain_of_isBlank (blankBack c member)).mp closed

end Position

open Position

/-- A comma cuts where the scan is back at the beginning. -/
theorem pieces_append_comma {text : Text} (closed : Skips start start text []) (rest : Text) :
    pieces start (text ++ ',' :: rest) = text :: pieces start rest := by
  have cut : pieces start (',' :: rest) = [] :: pieces start rest := rfl
  have passed : Skips start start (text ++ ',' :: rest) (',' :: rest) :=
    closed.append_right (',' :: rest)
  rw [passed.pieces_eq, cut, List.modifyHead_cons, List.append_nil]

/-- The arguments that a section can have: no end of them is blank, and the scan cuts none of them.
But for the last it is outside quotes and brackets behind each. -/
inductive IsSection : List Text → Prop where
  | last {text : Text} (tight : text.Tight) (keeps : start.Keeps text) : IsSection [text]
  | cons {text : Text} {texts : List Text} (tight : text.Tight) (closed : Skips start start text [])
      (others : IsSection texts) : IsSection (text :: texts)

variable {texts : List Text}

namespace IsSection

theorem filled (isSection : IsSection texts) : texts ≠ [] := by
  cases isSection <;> exact List.cons_ne_nil _ _

theorem tight (isSection : IsSection texts) : ∀ text ∈ texts, text.Tight := by
  induction isSection with
  | last tight _ => simpa using tight
  | cons tight _ _ inductionHypothesis => exact List.forall_mem_cons.mpr ⟨tight, inductionHypothesis⟩

/-- The pieces of joined arguments are the arguments. -/
theorem pieces_join (isSection : IsSection texts) :
    pieces start (Text.join [','] texts) = texts := by
  induction isSection with
  | last _ keeps =>
      rw [Text.join_singleton]
      exact keeps
  | @cons text texts _ closed others inductionHypothesis =>
      rw [Text.join_cons _ text others.filled, List.append_assoc, List.singleton_append,
        pieces_append_comma closed, inductionHypothesis]

/-- Joined arguments are scanned to the arguments. -/
theorem scan_join (isSection : IsSection texts) : scan (Text.join [','] texts) = texts := by
  rw [scan, isSection.pieces_join]
  exact Text.map_trim_eq_self fun text member => (isSection.tight text member).trim_eq

end IsSection

/-- Plain texts are cut apart again, also where they have white space around them. -/
theorem pieces_join_of_plain (filled : texts ≠ [])
    (plain : ∀ text ∈ texts, ∀ c ∈ text, isPlain c = true) :
    pieces start (Text.join [','] texts) = texts := by
  induction texts with
  | nil => exact absurd rfl filled
  | cons text texts inductionHypothesis =>
      rw [List.forall_mem_cons] at plain
      have closed : Skips start start text [] := by
        have passed := Skips.append_plain text plain.1 0 []
        rwa [List.append_nil] at passed
      by_cases last : texts = []
      · rw [last, Text.join_singleton, closed.pieces_eq_singleton]
      · rw [Text.join_cons _ text last, List.append_assoc, List.singleton_append,
          pieces_append_comma closed, inductionHypothesis last plain.2]

/-- A text is one piece, or it has a first comma that separates. Before it the scan is back where it
began, so that the rest is cut like a text of its own. -/
theorem pieces_cases (position : Position) (raw : Text) :
    position.Keeps raw ∨
      ∃ front rest, raw = front ++ ',' :: rest ∧ position.Keeps front ∧
        position.after front = start ∧ pieces position raw = front :: pieces start rest := by
  induction raw generalizing position with
  | nil => exact .inl rfl
  | cons c raw inductionHypothesis =>
      cases joined : position.separates c with
      | true =>
          have cut : pieces position (c :: raw) = [] :: pieces position raw := by
            simp [pieces, joined]
          simp only [separates, Bool.and_eq_true, beq_iff_eq] at joined
          obtain ⟨⟨rfl, depth⟩, quoting⟩ := joined
          obtain rfl : position = start := by
            cases position
            simp_all [start]
          exact .inr ⟨[], raw, rfl, rfl, rfl, cut⟩
      | false =>
          rcases inductionHypothesis (position.next c) with keeps | ⟨front, rest, rfl, keeps, closed, cut⟩
          · exact .inl (keeps_cons_iff.mpr ⟨joined, keeps⟩)
          · refine .inr ⟨c :: front, rest, rfl, keeps_cons_iff.mpr ⟨joined, keeps⟩, closed, ?_⟩
            simp [pieces, joined, cut]

/-- What a scan gives are arguments of a section. -/
theorem isSection_scan (raw : Text) : IsSection (scan raw) := by
  have tight : ∀ text, (Text.trim text).Tight := fun text =>
    Text.tight_of_trim_eq (Text.trim_trim text)
  -- The pieces behind the first separating comma are those of a shorter text.
  induction length : raw.length using Nat.strong_induction_on generalizing raw with
  | _ length shorter =>
      rcases pieces_cases start raw with keeps | ⟨front, rest, rfl, keeps, closed, cut⟩
      · have whole : scan raw = [Text.trim raw] := by rw [scan, keeps, List.map_singleton]
        rw [whole]
        exact .last (tight raw) (trim_of_keeps keeps).1
      · have parts : scan (front ++ ',' :: rest) = Text.trim front :: scan rest := by
          rw [scan, cut, List.map_cons, scan]
        obtain ⟨keepsTrimmed, closedTrimmed⟩ := trim_of_keeps keeps
        have passed := keepsTrimmed.skips
        rw [closedTrimmed closed] at passed
        rw [parts]
        refine .cons (tight front) passed (shorter rest.length ?_ rest rfl)
        rw [← length, List.length_append, List.length_cons]
        omega

end Arguments

end CommandLink
