import CommandLink.Proofs.Framing.Completion
import CommandLink.Proofs.Framing.Events
import Mathlib.Data.List.Induction

/-!
# Nothing is lost

What a buffer without a pattern emits and keeps is what was appended, up to terminators and up to
the text that a request made it forget. `Credits` names that text for a history; by
`conserves_text` it comes out again, each character once and in its place, in whatever order
fragments, requests, stops and timers come, and timers that run no more have no part in it.
-/

namespace CommandLink

namespace Framer

/-- The characters of a text that are no terminators. -/
def content (framer : Framer) (text : Text) : Text :=
  text.filter (!framer.ends ·)

variable {framer : Framer}

@[simp] theorem content_nil : framer.content [] = [] :=
  rfl

@[simp] theorem content_append (left right : Text) :
    framer.content (left ++ right) = framer.content left ++ framer.content right :=
  List.filter_append left right

theorem content_eq_nil {ending : Text} (terminators : ∀ c ∈ ending, framer.ends c = true) :
    framer.content ending = [] := by
  simpa [content] using terminators

theorem content_eq_self {text : Text} (inside : ∀ c ∈ text, framer.ends c = false) :
    framer.content text = text := by
  simpa [content] using inside

/-- Without its terminators a text is its pieces. -/
theorem flatten_pieces (text : Text) : (framer.pieces text).flatten = framer.content text := by
  induction text with
  | nil => simp
  | cons c text inductionHypothesis =>
      cases isEnd : framer.ends c with
      | true =>
          rw [framer.pieces_cons_of_ends isEnd, List.flatten_cons, inductionHypothesis]
          simp [content, isEnd]
      | false =>
          obtain ⟨first, rest, cut⟩ := List.exists_cons_of_ne_nil (framer.pieces_ne_nil text)
          rw [framer.pieces_cons_of_not_ends isEnd, cut, List.modifyHead_cons, List.flatten_cons,
            List.cons_append, ← List.flatten_cons, ← cut, inductionHypothesis]
          simp [content, isEnd]

theorem flatten_finished_append_tail (text : Text) :
    (framer.finished text).flatten ++ framer.tail text = framer.content text := by
  rw [finished, List.flatten_filter_not_isEmpty, ← flatten_pieces,
    framer.pieces_eq_append_tail text]
  simp

/-- Without their terminators, messages are the pieces that they complete. -/
theorem map_content_of_completes {pieces messages : List Text}
    (completed : List.Forall₂ framer.Completes pieces messages)
    (proper : ∀ piece ∈ pieces, piece ≠ [] ∧ ∀ c ∈ piece, framer.ends c = false) :
    messages.map framer.content = pieces := by
  induction completed with
  | nil => rfl
  | @cons piece message pieces messages completes _ inductionHypothesis =>
      simp only [List.forall_mem_cons] at proper
      obtain ⟨ending, _, terminators, rfl⟩ := completes
      rw [List.map_cons, inductionHypothesis proper.2, content_append, content_eq_self proper.1.2,
        content_eq_nil terminators, List.append_nil]

theorem content_flatten (texts : List Text) :
    framer.content texts.flatten = (texts.map framer.content).flatten :=
  List.filter_flatten

/-- Messages have the characters of the pieces that they complete. -/
theorem content_flatten_of_completes {pieces messages : List Text}
    (completed : List.Forall₂ framer.Completes pieces messages)
    (proper : ∀ piece ∈ pieces, piece ≠ [] ∧ ∀ c ∈ piece, framer.ends c = false) :
    framer.content messages.flatten = pieces.flatten := by
  rw [content_flatten, map_content_of_completes completed proper]

/-- A push emits and keeps what was pending and what arrives. -/
theorem content_push (plain : framer.pattern? = none) (fragment pending : Text) :
    framer.content (framer.push fragment pending).1.flatten ++
        framer.content (framer.push fragment pending).2 =
      framer.content pending ++ framer.content fragment := by
  have messages := content_flatten_of_completes (push_messages plain fragment pending)
    fun _ => framer.mem_finished
  have kept : framer.content (framer.tail (pending ++ fragment)) =
      framer.tail (pending ++ fragment) := content_eq_self framer.not_ends_of_mem_tail
  rw [messages, push_pending plain, kept, flatten_finished_append_tail, content_append]

/-- The tail of a text is what it ends with. -/
theorem tail_suffix (text : Text) : framer.tail text <:+ text := by
  induction text using List.reverseRecOn with
  | nil => simp [tail]
  | append_singleton text c inductionHypothesis =>
      cases isEnd : framer.ends c with
      | true =>
          rw [framer.tail_concat_of_ends text isEnd]
          exact List.nil_suffix
      | false =>
          obtain ⟨front, whole⟩ := inductionHypothesis
          exact ⟨front, by rw [framer.tail_concat_of_not_ends text isEnd, ← List.append_assoc, whole]⟩

end Framer

namespace TimedBuffer

variable {framer : Framer} {events : List Event} {credited : Text}

/-- The text that a history is to account for: all that was appended, without the text that was
pending whenever a request started. -/
inductive Credits (framer : Framer) : List Event → Text → Prop where
  | nothing : Credits framer [] []
  | append {events : List Event} {credited : Text} (earlier : Credits framer events credited)
      (fragment : Text) : Credits framer (events ++ [.append fragment]) (credited ++ fragment)
  | start {events : List Event} {kept : Text}
      (earlier : Credits framer events (kept ++ (after framer events).pending)) :
      Credits framer (events ++ [.start]) kept
  | neutral {events : List Event} {credited : Text} {event : Event}
      (earlier : Credits framer events credited) (neutral : event.isNeutral = true) :
      Credits framer (events ++ [event]) credited

/-- What is pending is what arrived last. -/
theorem Credits.pending_suffix (plain : framer.pattern? = none)
    (credits : Credits framer events credited) : (after framer events).pending <:+ credited := by
  induction credits with
  | nothing => exact List.nil_suffix
  | append earlier fragment inductionHypothesis =>
      rw [after_concat, perform, pending_append, Framer.push_pending plain]
      obtain ⟨front, whole⟩ := inductionHypothesis
      rw [← whole, List.append_assoc]
      exact List.suffix_append_of_suffix (Framer.tail_suffix _)
  | start earlier =>
      rw [after_concat]
      exact List.nil_suffix
  | @neutral events credited event earlier neutral inductionHypothesis =>
      rw [after_concat]
      exact (pending_perform_suffix plain neutral _).trans inductionHypothesis

/-- Every history has a text to account for. -/
theorem exists_credits (plain : framer.pattern? = none) (events : List Event) :
    ∃ credited, Credits framer events credited := by
  induction events using List.reverseRecOn with
  | nil => exact ⟨[], .nothing⟩
  | append_singleton events event inductionHypothesis =>
      obtain ⟨credited, credits⟩ := inductionHypothesis
      cases event with
      | append fragment => exact ⟨credited ++ fragment, credits.append fragment⟩
      | start =>
          obtain ⟨kept, rfl⟩ := credits.pending_suffix plain
          exact ⟨kept, credits.start⟩
      | stop | expire | pass | wait => exact ⟨credited, credits.neutral rfl⟩

/-- What was emitted and what is pending are the text to account for, up to terminators. -/
theorem Credits.content_eq (plain : framer.pattern? = none)
    (credits : Credits framer events credited) :
    framer.content ((emitted framer events).flatten ++ (after framer events).pending) =
      framer.content credited := by
  induction credits with
  | nothing => rfl
  | @append events credited earlier fragment inductionHypothesis =>
      have pushed := Framer.content_push plain fragment (after framer events).pending
      rw [emitted_concat, after_concat, perform, messages_append, pending_append]
      rw [Framer.content_append] at inductionHypothesis
      simp only [List.flatten_append, Framer.content_append, List.append_assoc]
      rw [pushed, ← List.append_assoc, inductionHypothesis]
  | start earlier inductionHypothesis =>
      rw [emitted_concat, after_concat]
      simp only [Framer.content_append] at inductionHypothesis
      have emittedBefore := List.append_cancel_right inductionHypothesis
      simpa [perform, pending_start] using emittedBefore
  | @neutral events credited event earlier neutral inductionHypothesis =>
      have whole := flatten_perform_append_pending plain neutral (after framer events)
      rw [emitted_concat, after_concat, List.flatten_append, List.append_assoc, whole,
        inductionHypothesis]

/-- Whatever happens to a buffer without a pattern, and in whatever order: there is a text to
account for, and what was emitted together with what is pending is that text up to terminators, so
that no character is lost, doubled or out of its place. A timer that ran once and runs no more has
no part in it: the end of its task emits nothing and changes nothing, however late it comes. -/
theorem conserves_text (framer : Framer) (plain : framer.pattern? = none) (events : List Event) :
    (∃ credited, Credits framer events credited) ∧
      (∀ credited, Credits framer events credited →
        framer.content ((emitted framer events).flatten ++ (after framer events).pending) =
          framer.content credited) ∧
      ∀ earlier middle later kind token, events = earlier ++ middle ++ later →
        (after framer earlier).IsRunning kind token →
        ¬ (after framer (earlier ++ middle)).IsRunning kind token →
        (after framer events).perform framer (.expire kind token) = ([], after framer events) := by
  refine ⟨exists_credits plain events, fun credited credits => credits.content_eq plain, ?_⟩
  rintro earlier middle later kind token rfl ran gone
  exact expire_of_not_isRunning (not_isRunning_after ran gone)

/-- A request forgets the `a` that is pending. The timer of the `a` ends late, and nothing comes of
it; the data timer of the `c` ends early, and the `c` is emitted. -/
theorem conserves_text_request :
    let framer : Framer := ⟨"\n", none, 5000, 500⟩
    let events : List Event := [.append "a", .start, .append "b\nc", .expire .master 0,
      .expire .data 3, .append "d"]
    let messages : List Text := ["b\n", "c"]
    emitted framer events = messages ∧ (after framer events).pending = "d".toList ∧
      framer.content (messages.flatten ++ "d".toList) = framer.content "b\ncd" ∧
      (after framer events).perform framer (.expire .master 0) = ([], after framer events) := by
  intro framer events messages
  have sent : emitted framer events = messages := by decide
  have kept : (after framer events).pending = "d".toList := by decide
  obtain ⟨_, accounts, stale⟩ := conserves_text framer rfl events
  have forgotten : Credits framer [.append "a", .start] [] :=
    @Credits.start framer [.append "a"] [] (.append .nothing "a")
  have arrived : Credits framer [.append "a", .start, .append "b\nc"] "b\nc" :=
    .append forgotten "b\nc"
  have credits : Credits framer events "b\ncd" := .append (.neutral (.neutral arrived rfl) rfl) "d"
  refine ⟨sent, kept, ?_, stale [.append "a"] [.start] _ .master 0 rfl ?_ ?_⟩
  · have balance := accounts _ credits
    rwa [sent, kept] at balance
  · decide
  · decide

end TimedBuffer

end CommandLink
