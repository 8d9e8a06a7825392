import CommandLink.Framing.Buffer

/-!
# Pieces of a text

The terminators of a framer cut a text into pieces. All pieces but the last are finished; only the
last can still grow when more text arrives. `pieces_append` is the law of that growth, and the laws
of `finished` and `tail` are read off it.
-/

namespace CommandLink.Framer

/-- Whether a character ends a message. -/
def ends (framer : Framer) (c : Char) : Bool :=
  framer.terminators.contains c

/-- The stretches of text between terminators, the empty ones included. -/
def pieces (framer : Framer) (text : Text) : List Text :=
  text.splitOnP framer.ends

/-- The pieces that a terminator follows, without the empty ones. -/
def finished (framer : Framer) (text : Text) : List Text :=
  (framer.pieces text).dropLast.filter (!·.isEmpty)

/-- The piece that no terminator follows. -/
def tail (framer : Framer) (text : Text) : Text :=
  (framer.pieces text).getLastD []

/-- All pieces that are not empty: the longest stretches of text without terminators. -/
def lines (framer : Framer) (text : Text) : List Text :=
  (framer.pieces text).filter (!·.isEmpty)

variable (framer : Framer)

@[simp] theorem pieces_nil : framer.pieces [] = [[]] := by
  simp [pieces]

@[simp] theorem pieces_ne_nil (text : Text) : framer.pieces text ≠ [] := by
  simp [pieces]

theorem pieces_cons_of_ends {c : Char} (isEnd : framer.ends c = true) (text : Text) :
    framer.pieces (c :: text) = [] :: framer.pieces text := by
  simp [pieces, List.splitOnP_cons_eq_if_modifyHead, isEnd]

theorem pieces_cons_of_not_ends {c : Char} (inside : framer.ends c = false) (text : Text) :
    framer.pieces (c :: text) = (framer.pieces text).modifyHead (c :: ·) := by
  simp [pieces, List.splitOnP_cons_eq_if_modifyHead, inside]

/-- The pieces in front of the last, and the last. -/
theorem pieces_eq_append_tail (text : Text) :
    framer.pieces text = (framer.pieces text).dropLast ++ [framer.tail text] := by
  rw [tail, List.getLastD_eq_getLast?, List.getLast?_eq_some_getLast (framer.pieces_ne_nil text)]
  exact (List.dropLast_concat_getLast _).symm

theorem tail_eq_of_pieces {text last : Text} {front : List Text}
    (cut : framer.pieces text = front ++ [last]) : framer.tail text = last := by
  simp [tail, cut]

theorem finished_eq_of_pieces {text last : Text} {front : List Text}
    (cut : framer.pieces text = front ++ [last]) :
    framer.finished text = front.filter (!·.isEmpty) := by
  simp [finished, cut]

/-- Without the last piece a text is finished: what is appended continues that piece. -/
theorem pieces_append {left last : Text} {front : List Text}
    (cut : framer.pieces left = front ++ [last]) (right : Text) :
    framer.pieces (left ++ right) = front ++ framer.pieces (last ++ right) := by
  induction left generalizing front last with
  | nil =>
      have empty : front = [] ∧ last = [] := by
        cases front <;> simp_all
      simp [empty]
  | cons c left inductionHypothesis =>
      cases isEnd : framer.ends c with
      | true =>
          rw [pieces_cons_of_ends framer isEnd] at cut
          cases front with
          | nil => simp at cut
          | cons first front =>
              obtain ⟨rfl, rest⟩ := List.cons.inj cut
              rw [List.cons_append, pieces_cons_of_ends framer isEnd, inductionHypothesis rest,
                List.cons_append]
      | false =>
          rw [pieces_cons_of_not_ends framer isEnd, framer.pieces_eq_append_tail left] at cut
          rw [List.cons_append, pieces_cons_of_not_ends framer isEnd,
            inductionHypothesis (framer.pieces_eq_append_tail left)]
          -- The head is the last piece exactly if there is no other.
          cases finishedPieces : (framer.pieces left).dropLast with
          | nil =>
              cases front with
              | nil =>
                  simp only [finishedPieces, List.nil_append, List.modifyHead_cons,
                    List.cons.injEq, and_true] at cut
                  rw [← cut]
                  simp [pieces_cons_of_not_ends framer isEnd]
              | cons first front => simp [finishedPieces] at cut
          | cons first others =>
              simp only [finishedPieces, List.cons_append, List.modifyHead_cons] at cut ⊢
              rw [← List.cons_append] at cut
              obtain ⟨rfl, lasts⟩ := List.append_inj' cut rfl
              rw [List.cons_append, List.singleton_inj.mp lasts]

/-- Appending text finishes what was finished before and what it finishes with the tail. -/
theorem finished_append (left right : Text) :
    framer.finished (left ++ right) =
      framer.finished left ++ framer.finished (framer.tail left ++ right) := by
  have whole := framer.pieces_append (framer.pieces_eq_append_tail left) right
  rw [framer.pieces_eq_append_tail (framer.tail left ++ right), ← List.append_assoc] at whole
  rw [framer.finished_eq_of_pieces whole, List.filter_append]
  rfl

/-- Only the tail of what was there before matters to the tail. -/
theorem tail_append (left right : Text) :
    framer.tail (left ++ right) = framer.tail (framer.tail left ++ right) := by
  have whole := framer.pieces_append (framer.pieces_eq_append_tail left) right
  rw [framer.pieces_eq_append_tail (framer.tail left ++ right), ← List.append_assoc] at whole
  exact framer.tail_eq_of_pieces whole

/-- The lines of a text are its finished pieces, and its tail if that is not empty. -/
theorem lines_eq_finished_append (text : Text) :
    framer.lines text = framer.finished text ++ [framer.tail text].filter (!·.isEmpty) := by
  rw [lines, framer.pieces_eq_append_tail text, List.filter_append]
  rfl

/-- What is finished already is not affected by what is appended. -/
theorem lines_append (left right : Text) :
    framer.lines (left ++ right) =
      framer.finished left ++ framer.lines (framer.tail left ++ right) := by
  rw [lines_eq_finished_append, framer.finished_append, framer.tail_append, List.append_assoc,
    ← lines_eq_finished_append]

/-- There is no terminator in a piece. -/
theorem not_ends_of_mem_pieces {text piece : Text} (member : piece ∈ framer.pieces text) :
    ∀ c ∈ piece, framer.ends c = false := by
  induction text generalizing piece with
  | nil => simp_all
  | cons d text inductionHypothesis =>
      cases isEnd : framer.ends d with
      | true =>
          rw [pieces_cons_of_ends framer isEnd, List.mem_cons] at member
          rcases member with rfl | later
          · simp
          · exact inductionHypothesis later
      | false =>
          obtain ⟨first, rest, cut⟩ := List.exists_cons_of_ne_nil (framer.pieces_ne_nil text)
          rw [pieces_cons_of_not_ends framer isEnd, cut, List.modifyHead_cons, List.mem_cons]
            at member
          rcases member with rfl | later
          · rintro c inside
            rcases List.mem_cons.mp inside with rfl | inside
            · exact isEnd
            · exact inductionHypothesis (cut ▸ List.mem_cons_self) c inside
          · exact inductionHypothesis (cut ▸ List.mem_cons_of_mem _ later)

/-- There is no terminator in the tail. -/
theorem not_ends_of_mem_tail {text : Text} : ∀ c ∈ framer.tail text, framer.ends c = false := by
  have member : framer.tail text ∈ framer.pieces text := by
    rw [framer.pieces_eq_append_tail text]
    simp
  exact framer.not_ends_of_mem_pieces member

/-- A finished piece is not empty, and there is no terminator in it. -/
theorem mem_finished {text piece : Text} (member : piece ∈ framer.finished text) :
    piece ≠ [] ∧ ∀ c ∈ piece, framer.ends c = false := by
  obtain ⟨among, filled⟩ := List.mem_filter.mp member
  refine ⟨by simpa using filled, ?_⟩
  exact framer.not_ends_of_mem_pieces (List.dropLast_subset _ among)

/-- A text without terminators is one piece. -/
theorem pieces_eq_singleton {text : Text} (inside : ∀ c ∈ text, framer.ends c = false) :
    framer.pieces text = [text] :=
  List.splitOnP_eq_singleton inside

/-- A text without terminators is all tail. -/
theorem tail_eq_self {text : Text} (inside : ∀ c ∈ text, framer.ends c = false) :
    framer.tail text = text :=
  framer.tail_eq_of_pieces ((framer.pieces_eq_singleton inside).trans (List.nil_append _).symm)

/-- A terminator leaves no tail. -/
theorem tail_concat_of_ends (text : Text) {c : Char} (isEnd : framer.ends c = true) :
    framer.tail (text ++ [c]) = [] := by
  have cut : framer.pieces (text ++ [c]) = framer.pieces text ++ [[]] :=
    List.splitOnP_append_cons text [] isEnd
  exact framer.tail_eq_of_pieces cut

/-- A character that is no terminator belongs to the tail. -/
theorem tail_concat_of_not_ends (text : Text) {c : Char} (inside : framer.ends c = false) :
    framer.tail (text ++ [c]) = framer.tail text ++ [c] := by
  rw [framer.tail_append, framer.tail_eq_self]
  simpa [inside, or_imp, forall_and] using framer.not_ends_of_mem_tail

theorem finished_eq_nil {text : Text} (inside : ∀ c ∈ text, framer.ends c = false) :
    framer.finished text = [] :=
  framer.finished_eq_of_pieces ((framer.pieces_eq_singleton inside).trans (List.nil_append _).symm)

/-- Text without terminators in front of a terminator is the first piece. -/
theorem pieces_append_cons {left : Text} (inside : ∀ c ∈ left, framer.ends c = false) {c : Char}
    (isEnd : framer.ends c = true) (right : Text) :
    framer.pieces (left ++ c :: right) = left :: framer.pieces right := by
  rw [pieces, List.splitOnP_append_cons _ _ isEnd, List.splitOnP_eq_singleton inside]
  rfl

theorem tail_append_cons {left : Text} (inside : ∀ c ∈ left, framer.ends c = false) {c : Char}
    (isEnd : framer.ends c = true) (right : Text) :
    framer.tail (left ++ c :: right) = framer.tail right := by
  have cut : framer.pieces (left ++ c :: right) =
      (left :: (framer.pieces right).dropLast) ++ [framer.tail right] := by
    rw [framer.pieces_append_cons inside isEnd, List.cons_append,
      ← framer.pieces_eq_append_tail right]
  exact framer.tail_eq_of_pieces cut

theorem finished_append_cons {left : Text} (inside : ∀ c ∈ left, framer.ends c = false) {c : Char}
    (isEnd : framer.ends c = true) (right : Text) :
    framer.finished (left ++ c :: right) =
      [left].filter (!·.isEmpty) ++ framer.finished right := by
  rw [finished, framer.pieces_append_cons inside isEnd,
    List.dropLast_cons_of_ne_nil (framer.pieces_ne_nil right), ← List.singleton_append,
    List.filter_append]
  rfl

/-- A text without terminators is one line, if it is not empty. -/
theorem lines_eq_filter {text : Text} (inside : ∀ c ∈ text, framer.ends c = false) :
    framer.lines text = [text].filter (!·.isEmpty) := by
  rw [lines, framer.pieces_eq_singleton inside]

/-- There are no lines between terminators. -/
theorem lines_eq_nil {text : Text} (terminators : ∀ c ∈ text, framer.ends c = true) :
    framer.lines text = [] := by
  induction text with
  | nil => rfl
  | cons c text inductionHypothesis =>
      rw [List.forall_mem_cons] at terminators
      rw [lines, framer.pieces_cons_of_ends terminators.1]
      exact inductionHypothesis terminators.2

/-- A text without terminators is still one line if terminators follow it. -/
theorem lines_append_of_ends {text ending : Text} (inside : ∀ c ∈ text, framer.ends c = false)
    (terminators : ∀ c ∈ ending, framer.ends c = true) :
    framer.lines (text ++ ending) = [text].filter (!·.isEmpty) := by
  cases ending with
  | nil => rw [List.append_nil, framer.lines_eq_filter inside]
  | cons c rest =>
      rw [List.forall_mem_cons] at terminators
      have nothing : (framer.pieces rest).filter (!·.isEmpty) = [] := framer.lines_eq_nil terminators.2
      rw [lines, framer.pieces_append_cons inside terminators.1, ← List.singleton_append,
        List.filter_append, nothing, List.append_nil]

end CommandLink.Framer
