import CommandLink.Proofs.Framing.Pieces
import Mathlib.Data.List.Forall2

/-!
# Completed messages

What a framer without a pattern makes of fragments that arrive one after another. Chunks are
compared with pieces by `Chunk.Divides`; from that comparison follows what one push does, and from
the law of growing pieces what any number of pushes does. `pushAll_fresh` is the result: the
messages are the finished pieces with their terminators, and the pending text is the tail.
-/

namespace CommandLink

namespace Framer

/-- A message is a piece together with at least one of the terminators that follow it. -/
def Completes (framer : Framer) (piece message : Text) : Prop :=
  ∃ ending, ending ≠ [] ∧ (∀ c ∈ ending, framer.ends c = true) ∧ message = piece ++ ending

end Framer

namespace Chunk

/-- Chunks and pieces divide the same text. Every terminator of an ending but the first follows an
empty piece. -/
inductive Divides (framer : Framer) : List Chunk → List Text → Prop where
  | nothing : Divides framer [] [[]]
  | unfinished {body : Text} (filled : body ≠ []) : Divides framer [⟨body, []⟩] [body]
  | finished {body ending : Text} {chunks : List Chunk} {pieces : List Text}
      (ended : ending ≠ []) (terminators : ∀ c ∈ ending, framer.ends c = true)
      (rest : Divides framer chunks pieces) :
      Divides framer (⟨body, ending⟩ :: chunks)
        (body :: List.replicate (ending.length - 1) [] ++ pieces)

variable {framer : Framer}

theorem Divides.ne_nil {chunks : List Chunk} {pieces : List Text}
    (divides : Divides framer chunks pieces) : pieces ≠ [] := by
  cases divides <;> simp

/-- A terminator by itself is a chunk without a body. -/
theorem Divides.single {c : Char} (isEnd : framer.ends c = true) {chunks : List Chunk}
    {pieces : List Text} (divides : Divides framer chunks pieces) :
    Divides framer (⟨[], [c]⟩ :: chunks) ([] :: pieces) := by
  have terminators : ∀ d ∈ [c], framer.ends d = true := by simp [isEnd]
  exact .finished (List.cons_ne_nil c []) terminators divides

/-- A terminator in front of a text follows an empty piece. -/
theorem Divides.cons_ends {c : Char} (isEnd : framer.ends c = true) {chunks : List Chunk}
    {pieces : List Text} (divides : Divides framer chunks pieces) :
    Divides framer (cons framer.ends c chunks) ([] :: pieces) := by
  cases divides with
  | nothing => simpa [cons, isEnd] using Divides.single isEnd .nothing
  | unfinished filled =>
      simpa [cons, isEnd, filled] using Divides.single isEnd (.unfinished filled)
  | @finished body ending chunks pieces ended terminators rest =>
      by_cases empty : body = []
      · subst empty
        have more : ∀ d ∈ c :: ending, framer.ends d = true := by
          simpa [isEnd] using terminators
        have grown : Divides framer (⟨[], c :: ending⟩ :: chunks)
            ([] :: List.replicate ending.length [] ++ pieces) :=
          .finished (List.cons_ne_nil c ending) more rest
        obtain ⟨d, others, rfl⟩ := List.exists_cons_of_ne_nil ended
        simpa [cons, isEnd, List.replicate_succ] using grown
      · simpa [cons, isEnd, empty] using
          Divides.single isEnd (.finished ended terminators rest)

/-- A character that is no terminator belongs to the first piece. -/
theorem Divides.cons_not_ends {c : Char} (inside : framer.ends c = false) {chunks : List Chunk}
    {pieces : List Text} (divides : Divides framer chunks pieces) :
    Divides framer (cons framer.ends c chunks) (pieces.modifyHead (c :: ·)) := by
  cases divides with
  | nothing => simpa [cons, inside] using Divides.unfinished (List.cons_ne_nil c [])
  | unfinished filled => simpa [cons, inside] using Divides.unfinished (List.cons_ne_nil c _)
  | finished ended terminators rest =>
      simpa [cons, inside] using Divides.finished ended terminators rest

/-- The chunks of a text divide it where its pieces do. -/
theorem divides_ofText (framer : Framer) (text : Text) :
    Divides framer (ofText framer.ends text) (framer.pieces text) := by
  induction text with
  | nil => simpa [ofText] using Divides.nothing
  | cons c text inductionHypothesis =>
      cases isEnd : framer.ends c with
      | true =>
          rw [ofText, framer.pieces_cons_of_ends isEnd]
          exact inductionHypothesis.cons_ends isEnd
      | false =>
          rw [ofText, framer.pieces_cons_of_not_ends isEnd]
          exact inductionHypothesis.cons_not_ends isEnd

/-- A text of characters without terminators, and then of terminators, is one chunk. -/
theorem ofText_append {body ending : Text} (inside : ∀ c ∈ body, framer.ends c = false)
    (terminators : ∀ c ∈ ending, framer.ends c = true) (filled : body ++ ending ≠ []) :
    ofText framer.ends (body ++ ending) = [⟨body, ending⟩] := by
  induction body with
  | nil =>
      induction ending with
      | nil => exact absurd rfl filled
      | cons c ending inductionHypothesis =>
          rw [List.forall_mem_cons] at terminators
          rw [List.nil_append] at inductionHypothesis ⊢
          cases ending with
          | nil => simp [ofText, cons, terminators.1]
          | cons d ending =>
              rw [ofText, inductionHypothesis terminators.2 (List.cons_ne_nil d ending)]
              simp [cons, terminators.1]
  | cons c body inductionHypothesis =>
      rw [List.forall_mem_cons] at inside
      rw [List.cons_append, ofText]
      by_cases empty : body ++ ending = []
      · obtain ⟨rfl, rfl⟩ := List.append_eq_nil_iff.mp empty
        simp [ofText, cons, inside.1]
      · rw [inductionHypothesis inside.2 empty]
        simp [cons, inside.1]

/-- What no terminator has ended yet is the last piece. -/
theorem Divides.unfinished_eq {chunks : List Chunk} {pieces : List Text}
    (divides : Divides framer chunks pieces) : Chunk.unfinished chunks = pieces.getLastD [] := by
  induction divides with
  | nothing => rfl
  | unfinished filled => simp [Chunk.unfinished]
  | @finished body ending chunks pieces ended terminators rest inductionHypothesis =>
      have last : (body :: List.replicate (ending.length - 1) [] ++ pieces).getLastD [] =
          pieces.getLastD [] := by
        simp only [List.getLastD_eq_getLast?, List.getLast?_append_of_ne_nil _ rest.ne_nil]
      rw [last, ← inductionHypothesis]
      cases rest with
      | nothing =>
          obtain ⟨d, others, rfl⟩ := List.exists_cons_of_ne_nil ended
          rfl
      | unfinished _ => rfl
      | finished _ _ _ => simp [Chunk.unfinished, List.getLast?_cons_cons]

/-- The messages are the pieces that a terminator follows, without the empty ones. -/
theorem Divides.messages {chunks : List Chunk} {pieces : List Text}
    (divides : Divides framer chunks pieces) :
    List.Forall₂ framer.Completes (pieces.dropLast.filter (!·.isEmpty))
      (Chunk.messages chunks) := by
  induction divides with
  | nothing => exact .nil
  | unfinished filled => simp [Chunk.messages, Chunk.isMessage]
  | @finished body ending chunks pieces ended terminators rest inductionHypothesis =>
      rw [List.dropLast_append_of_ne_nil rest.ne_nil, List.cons_append]
      by_cases empty : body = []
      · simpa [empty, Chunk.messages, Chunk.isMessage] using inductionHypothesis
      · have piecesCons :
            (body :: (List.replicate (ending.length - 1) [] ++ pieces.dropLast)).filter
              (!·.isEmpty) = body :: pieces.dropLast.filter (!·.isEmpty) := by
          simp [empty]
        have isMessage : (⟨body, ending⟩ : Chunk).isMessage = true := by
          simp [Chunk.isMessage, empty, ended]
        have messagesCons : Chunk.messages (⟨body, ending⟩ :: chunks) =
            (body ++ ending) :: Chunk.messages chunks := by
          simp [Chunk.messages, List.filter_cons_of_pos isMessage, Chunk.text]
        rw [piecesCons, messagesCons]
        exact .cons ⟨ending, ended, terminators, rfl⟩ inductionHypothesis

end Chunk

namespace Framer

variable {framer : Framer}

/-- Without a pattern the pending text is the tail of all that is there. -/
theorem push_pending (plain : framer.pattern? = none) (fragment pending : Text) :
    (framer.push fragment pending).2 = framer.tail (pending ++ fragment) := by
  simp only [push, plain, Option.bind_none]
  exact (Chunk.divides_ofText framer (pending ++ fragment)).unfinished_eq

/-- Without a pattern the messages are what is finished of all that is there. -/
theorem push_messages (plain : framer.pattern? = none) (fragment pending : Text) :
    List.Forall₂ framer.Completes (framer.finished (pending ++ fragment))
      (framer.push fragment pending).1 := by
  simp only [push, plain, Option.bind_none]
  exact (Chunk.divides_ofText framer (pending ++ fragment)).messages

/-- A fragment that brings no terminator stays pending. -/
theorem push_of_unended (plain : framer.pattern? = none) {fragment pending : Text}
    (inside : ∀ c ∈ pending ++ fragment, framer.ends c = false)
    (filled : pending ++ fragment ≠ []) :
    framer.push fragment pending = ([], pending ++ fragment) := by
  have single : Chunk.ofText framer.terminators.contains (pending ++ fragment) =
      [⟨pending ++ fragment, []⟩] := by
    have whole := Chunk.ofText_append inside (List.forall_mem_nil _) (by simpa using filled)
    rw [List.append_nil] at whole
    exact whole
  simp [push, plain, single, Chunk.messages, Chunk.isMessage, Chunk.unfinished]

/-- A fragment that ends what is pending completes one message, unless nothing stands in front of
the terminators. -/
theorem push_of_ended (plain : framer.pattern? = none) {fragment pending body ending : Text}
    (whole : pending ++ fragment = body ++ ending) (inside : ∀ c ∈ body, framer.ends c = false)
    (terminators : ∀ c ∈ ending, framer.ends c = true) (ended : ending ≠ []) :
    framer.push fragment pending = ([body ++ ending].filter fun _ => !body.isEmpty, []) := by
  have single : Chunk.ofText framer.terminators.contains (body ++ ending) = [⟨body, ending⟩] :=
    Chunk.ofText_append inside terminators (List.append_ne_nil_of_right_ne_nil _ ended)
  obtain ⟨c, rest, rfl⟩ := List.exists_cons_of_ne_nil ended
  simp only [push, plain, Option.bind_none, whole, single]
  cases body <;> simp [Chunk.messages, Chunk.isMessage, Chunk.unfinished, Chunk.text]

/-- Append fragments one after another: all messages, and what is pending after the last. -/
def pushAll (framer : Framer) : List Text → Text → List Text × Text
  | [], pending => ([], pending)
  | fragment :: rest, pending =>
      let (messages, pending) := framer.push fragment pending
      let (later, pending) := framer.pushAll rest pending
      (messages ++ later, pending)

/-- After what has arrived in `history`, only its tail is kept, and that is enough: further
fragments complete what is finished in the whole text and was not before. -/
theorem pushAll_tail (plain : framer.pattern? = none) (fragments : List Text) (history : Text) :
    (framer.pushAll fragments (framer.tail history)).2 =
        framer.tail (history ++ fragments.flatten) ∧
      ∃ later, framer.finished (history ++ fragments.flatten) =
          framer.finished history ++ later ∧
        List.Forall₂ framer.Completes later
          (framer.pushAll fragments (framer.tail history)).1 := by
  induction fragments generalizing history with
  | nil => exact ⟨by simp [pushAll], [], by simp, .nil⟩
  | cons fragment rest inductionHypothesis =>
      have pending : (framer.push fragment (framer.tail history)).2 =
          framer.tail (history ++ fragment) := by
        rw [push_pending plain, ← framer.tail_append]
      have messages := push_messages plain fragment (framer.tail history)
      obtain ⟨restPending, later, finished, restMessages⟩ :=
        inductionHypothesis (history ++ fragment)
      rw [← pending] at restPending restMessages
      simp only [List.flatten_cons, ← List.append_assoc, pushAll]
      refine ⟨restPending, framer.finished (framer.tail history ++ fragment) ++ later, ?_, ?_⟩
      · rw [finished, framer.finished_append history fragment, List.append_assoc]
      · exact List.rel_append messages restMessages

/-- A message that completes a piece is not made of terminators only. -/
theorem Completes.exists_not_ends {piece message : Text}
    (completes : framer.Completes piece message)
    (proper : piece ≠ [] ∧ ∀ c ∈ piece, framer.ends c = false) :
    ∃ c ∈ message, c ∉ framer.terminators := by
  obtain ⟨ending, _, _, rfl⟩ := completes
  obtain ⟨c, rest, rfl⟩ := List.exists_cons_of_ne_nil proper.1
  refine ⟨c, by simp, ?_⟩
  simpa [ends] using proper.2 c List.mem_cons_self

/-- Messages that complete pieces in order are not made of terminators only. -/
theorem exists_not_ends_of_completes {pieces messages : List Text}
    (completed : List.Forall₂ framer.Completes pieces messages)
    (proper : ∀ piece ∈ pieces, piece ≠ [] ∧ ∀ c ∈ piece, framer.ends c = false) :
    ∀ message ∈ messages, ∃ c ∈ message, c ∉ framer.terminators := by
  induction completed with
  | nil => simp
  | cons completes _ inductionHypothesis =>
      simp only [List.forall_mem_cons] at proper ⊢
      exact ⟨completes.exists_not_ends proper.1, inductionHypothesis proper.2⟩

/-- Whatever the fragments in which a text arrives, the messages are, in order, its non-empty pieces
that a terminator follows, each with a non-empty run of terminators, and what is pending in the end
is the last piece, which is the whole text if there are no terminators. No message is made of
terminators only. -/
theorem pushAll_fresh (framer : Framer) (plain : framer.pattern? = none) (fragments : List Text) :
    List.Forall₂ framer.Completes (framer.finished fragments.flatten)
        (framer.pushAll fragments []).1 ∧
      (framer.pieces fragments.flatten).getLast? = some (framer.pushAll fragments []).2 ∧
      (framer.terminators = [] → (framer.pushAll fragments []).2 = fragments.flatten) ∧
      ∀ message ∈ (framer.pushAll fragments []).1, ∃ c ∈ message, c ∉ framer.terminators := by
  have fresh : framer.tail [] = [] := by simp [tail]
  have unfinished : framer.finished [] = [] := by simp [finished]
  obtain ⟨pending, later, completed, messages⟩ := pushAll_tail plain fragments []
  rw [fresh, List.nil_append] at pending
  rw [unfinished, List.nil_append, List.nil_append] at completed
  rw [fresh, ← completed] at messages
  refine ⟨messages, ?_, ?_, ?_⟩
  · rw [pending, framer.pieces_eq_append_tail fragments.flatten]
    simp
  · intro endless
    have single := framer.pieces_eq_singleton fun c (_ : c ∈ fragments.flatten) => by
      simp [ends, endless]
    rw [pending, framer.tail_eq_of_pieces (single.trans (List.nil_append _).symm)]
  · exact exists_not_ends_of_completes messages fun piece member => framer.mem_finished member

/-- A line ending that arrives in two parts ends its message with the first of them. -/
theorem pushAll_fresh_serial :
    let framer : Framer := ⟨"\r\n", none, 2000, 100⟩
    let messages : List Text := ["ab\r", "cd\n\r"]
    framer.pushAll ["\r\nab\r", "\n", "c", "d\n\re"] [] = (messages, "e".toList) ∧
      List.Forall₂ framer.Completes ["ab", "cd"] messages :=
  ⟨by decide, (pushAll_fresh ⟨"\r\n", none, 2000, 100⟩ rfl ["\r\nab\r", "\n", "c", "d\n\re"]).1⟩

end Framer

end CommandLink
