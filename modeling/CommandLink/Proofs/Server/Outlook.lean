import CommandLink.Proofs.Framing.Timers
import CommandLink.Proofs.Server.Messages
import CommandLink.Proofs.Text.Decoding
import CommandLink.Server.Stream

/-!
# The outlook of a conversation

What will have come of a conversation in the end, if the peer sends certain octets and no timer
comes due. Octets wait in the inbox, characters in the carry, text in the frame buffer, messages in
the queue and replies with the task; the outlook looks through all of them at once. Whatever happens
next only moves something from one of these places to another, so the outlook stays as it is
(`outlook_step?`, `outlook_advance`).
-/

namespace CommandLink

variable {σ : Type}

namespace Conversation

/-- What is invariably true of a conversation: there is no terminator in the pending text, and no
request of its own that waits for an answer. -/
structure Orderly (framer : Framer) (conversation : Conversation σ) : Prop where
  inside : ∀ c ∈ conversation.buffer.pending, framer.ends c = false
  answered : conversation.buffer.awaiting = false

/-- The replies of the command that is being carried out. -/
def owed (conversation : Conversation σ) : List Text :=
  (conversation.task?.map Task.replies).getD []

/-- All messages to be handled, if the peer sends `future` and closes its side. -/
def agenda (framer : Framer) (future : List UInt8) (conversation : Conversation σ) : List Text :=
  conversation.queue ++
    framer.lines (conversation.buffer.pending ++
      Utf8.finish conversation.carry (conversation.inbox ++ future))

/-- What will have come of a conversation since it was last looked at, if the peer sends `future`
and closes its side, and no timer comes due. -/
def outlook (server : Server σ) (framer : Framer) (future : List UInt8)
    (conversation : Conversation σ) : Handled σ :=
  let handled := server.handleAll (conversation.agenda framer future) conversation.run
  { replies := conversation.sent ++ conversation.owed ++ handled.replies
    outcomes := conversation.outcomes ++ handled.outcomes
    run := handled.run }

variable {server : Server σ} {framer : Framer} {horizon : Horizon}
  {conversation next : Conversation σ}

/-- The four sorts of things that can happen. -/
theorem step?_cases (step : conversation.step? server framer horizon = some next) :
    (∃ kind timer, next = conversation.timeOut framer kind timer) ∨
      (∃ task, conversation.task? = some task ∧ next = conversation.complete task) ∨
      (∃ message queue, conversation.task? = none ∧ conversation.queue = message :: queue ∧
        next = conversation.handleNext server message queue) ∨
      (conversation.task? = none ∧ conversation.queue = [] ∧
        next = conversation.receive framer) := by
  unfold step? at step
  split at step
  case h_1 task working =>
    split at step
    case h_1 kind timer _ =>
      split at step <;> cases step
      exact .inl ⟨kind, timer, rfl⟩
    case h_2 =>
      split at step <;> cases step
      exact .inr (.inl ⟨task, working, rfl⟩)
  case h_2 free =>
    split at step
    case h_1 message queue waiting =>
      cases step
      exact .inr (.inr (.inl ⟨message, queue, free, waiting, rfl⟩))
    case h_2 waiting _ =>
      cases step
      exact .inr (.inr (.inr ⟨free, waiting, rfl⟩))
    case h_3 =>
      split at step
      case h_1 kind timer _ =>
        split at step <;> cases step
        exact .inl ⟨kind, timer, rfl⟩
      case h_2 => cases step

/-- Messages on the agenda may stand for the pieces of text that they complete. -/
theorem outlook_of_agenda {future : List UInt8}
    (blank : ∀ c ∈ framer.terminators, isBlank c = true) {pieces messages rest : List Text}
    (completed : List.Forall₂ framer.Completes pieces messages)
    (before : conversation.agenda framer future = pieces ++ rest)
    (after : next.agenda framer future = messages ++ rest) (run : next.run = conversation.run)
    (sent : next.sent = conversation.sent) (owed : next.owed = conversation.owed)
    (outcomes : next.outcomes = conversation.outcomes) :
    next.outlook server framer future = conversation.outlook server framer future := by
  simp only [outlook, before, after, run, sent, owed, outcomes, server.handleAll_append,
    server.handleAll_eq_of_completes blank completed]

/-- Completing a command sends what it owes. -/
theorem outlook_complete {task : Task} (working : conversation.task? = some task)
    (future : List UInt8) :
    (conversation.complete task).outlook server framer future =
      conversation.outlook server framer future := by
  simp [outlook, agenda, owed, complete, working]

/-- Handling a message takes it from the agenda. -/
theorem outlook_handleNext {message : Text} {queue : List Text} (free : conversation.task? = none)
    (waiting : conversation.queue = message :: queue) (future : List UInt8) :
    (conversation.handleNext server message queue).outlook server framer future =
      conversation.outlook server framer future := by
  unfold handleNext
  dsimp only
  split <;> simp [outlook, agenda, owed, free, waiting, Server.handleAll]

/-- Reading puts messages on the agenda in the place of the pieces of text that they complete. -/
theorem agenda_receive (plain : framer.pattern? = none) (waiting : conversation.queue = [])
    (future : List UInt8) :
    ∃ pieces messages rest, List.Forall₂ framer.Completes pieces messages ∧
      conversation.agenda framer future = pieces ++ rest ∧
      (conversation.receive framer).agenda framer future = messages ++ rest := by
  have splitInbox : conversation.inbox ++ future =
      conversation.inbox.take readSize ++ (conversation.inbox.drop readSize ++ future) := by
    rw [← List.append_assoc, List.take_append_drop]
  have decoded := Utf8.finish_append conversation.carry (conversation.inbox.take readSize)
    (conversation.inbox.drop readSize ++ future)
  rw [← splitInbox] at decoded
  simp only [agenda, receive, waiting, decoded, List.nil_append]
  generalize Utf8.take conversation.carry (conversation.inbox.take readSize) = taken
  obtain ⟨text, carry⟩ := taken
  dsimp only
  generalize Utf8.finish carry (conversation.inbox.drop readSize ++ future) = rest
  by_cases empty : text = []
  · refine ⟨[], [], framer.lines (conversation.buffer.pending ++ rest), .nil, ?_, ?_⟩
    all_goals simp [empty]
  · refine ⟨_, _, framer.lines (framer.tail (conversation.buffer.pending ++ text) ++ rest),
      Framer.push_messages plain text conversation.buffer.pending, ?_, ?_⟩
    · rw [← List.append_assoc, framer.lines_append]
    · simp [empty, TimedBuffer.messages_append, TimedBuffer.pending_append,
        Framer.push_pending plain]

/-- Reading changes nothing but where it is kept what the peer has sent. -/
theorem outlook_receive (plain : framer.pattern? = none)
    (blank : ∀ c ∈ framer.terminators, isBlank c = true) (waiting : conversation.queue = [])
    (future : List UInt8) :
    (conversation.receive framer).outlook server framer future =
      conversation.outlook server framer future := by
  obtain ⟨pieces, messages, rest, completed, before, after⟩ :=
    agenda_receive plain waiting future
  exact outlook_of_agenda blank completed before after rfl rfl rfl rfl

theorem Orderly.receive (plain : framer.pattern? = none) (orderly : conversation.Orderly framer) :
    (conversation.receive framer).Orderly framer := by
  unfold Conversation.receive
  generalize Utf8.take conversation.carry (conversation.inbox.take readSize) = taken
  obtain ⟨text, carry⟩ := taken
  by_cases empty : text = []
  · exact ⟨by simpa [empty] using orderly.inside, by simpa [empty] using orderly.answered⟩
  · constructor
    · simp only [List.isEmpty_iff, empty, if_false, TimedBuffer.pending_append,
        Framer.push_pending plain]
      exact framer.not_ends_of_mem_tail
    · simp [empty, TimedBuffer.awaiting_append, orderly.answered]

theorem Orderly.handleNext {message : Text} {queue : List Text}
    (orderly : conversation.Orderly framer) :
    (conversation.handleNext server message queue).Orderly framer := by
  unfold Conversation.handleNext
  dsimp only
  split <;> exact ⟨orderly.inside, orderly.answered⟩

/-- Unless a timer comes due, whatever happens next leaves the outlook as it is. -/
theorem outlook_step? (plain : framer.pattern? = none)
    (blank : ∀ c ∈ framer.terminators, isBlank c = true) (orderly : conversation.Orderly framer)
    (step : conversation.step? server framer horizon = some next) (quiet : next.timedOut = false) :
    next.Orderly framer ∧ ∀ future, next.outlook server framer future =
      conversation.outlook server framer future := by
  obtain ⟨kind, timer, rfl⟩ | ⟨task, working, rfl⟩ | ⟨message, queue, free, waiting, rfl⟩ |
    ⟨_, waiting, rfl⟩ := step?_cases step
  · cases quiet
  · exact ⟨⟨orderly.inside, orderly.answered⟩, outlook_complete working⟩
  · exact ⟨orderly.handleNext, outlook_handleNext free waiting⟩
  · exact ⟨orderly.receive plain, outlook_receive plain blank waiting⟩

/-- It is not forgotten that a timer came due. -/
theorem timedOut_step? (step : conversation.step? server framer horizon = some next)
    (quiet : next.timedOut = false) : conversation.timedOut = false := by
  obtain ⟨kind, timer, rfl⟩ | ⟨task, _, rfl⟩ | ⟨message, queue, _, _, rfl⟩ | ⟨_, _, rfl⟩ :=
    step?_cases step
  · cases quiet
  · exact quiet
  · unfold handleNext at quiet
    dsimp only at quiet
    split at quiet <;> exact quiet
  · exact quiet

theorem timedOut_advance (quiet : (conversation.advance server framer horizon).timedOut = false) :
    conversation.timedOut = false := by
  fun_induction advance server framer horizon conversation with
  | case1 conversation next step inductionHypothesis =>
      exact timedOut_step? step (inductionHypothesis quiet)
  | case2 conversation still => exact quiet

theorem advance_of_some (step : conversation.step? server framer horizon = some next) :
    conversation.advance server framer horizon = next.advance server framer horizon := by
  rw [advance]
  split <;> simp_all

theorem advance_of_none (still : conversation.step? server framer horizon = none) :
    conversation.advance server framer horizon = conversation := by
  rw [advance]
  split <;> simp_all

/-- Carrying a conversation on leaves the outlook as it is, if no timer comes due on the way. -/
theorem outlook_advance (plain : framer.pattern? = none)
    (blank : ∀ c ∈ framer.terminators, isBlank c = true) (orderly : conversation.Orderly framer)
    (quiet : (conversation.advance server framer horizon).timedOut = false) :
    (conversation.advance server framer horizon).Orderly framer ∧
      ∀ future, (conversation.advance server framer horizon).outlook server framer future =
        conversation.outlook server framer future := by
  fun_induction advance server framer horizon conversation with
  | case1 conversation next step inductionHypothesis =>
      obtain ⟨orderlyNext, same⟩ := outlook_step? plain blank orderly step (timedOut_advance quiet)
      obtain ⟨orderlyEnd, sameEnd⟩ := inductionHypothesis orderlyNext quiet
      exact ⟨orderlyEnd, fun future => (sameEnd future).trans (same future)⟩
  | case2 conversation still => exact ⟨orderly, fun _ => rfl⟩

/-- A conversation that is carried on until it is idle has nothing left to handle or to read. -/
theorem idle_of_step?_eq_none (still : conversation.step? server framer .idle = none) :
    conversation.task? = none ∧ conversation.queue = [] ∧ conversation.inbox = [] := by
  unfold step? at still
  split at still
  case h_1 task working =>
    split at still <;> simp [Horizon.reaches] at still
  case h_2 free =>
    split at still
    case h_1 => cases still
    case h_2 => cases still
    case h_3 queue inbox => exact ⟨free, queue, inbox⟩

theorem idle_advance (server : Server σ) (framer : Framer) (conversation : Conversation σ) :
    (conversation.advance server framer .idle).task? = none ∧
      (conversation.advance server framer .idle).queue = [] ∧
      (conversation.advance server framer .idle).inbox = [] := by
  fun_induction advance server framer .idle conversation with
  | case1 conversation next step inductionHypothesis => exact inductionHypothesis
  | case2 conversation still => exact idle_of_step?_eq_none still

end Conversation

end CommandLink
