import CommandLink.Framing.Timed
import CommandLink.Server.Basic
import CommandLink.Text.Utf8

/-!
# Conversations

A server at one end of a stream of octets. Messages are handled one at a time and in order, and
before more is read. While a command takes its time nothing else is handled or read, but the timers
of the framer run on.
-/

namespace CommandLink

/-- A command that takes its time. -/
structure Task where
  /-- When it is done. -/
  due : Nat
  /-- What is sent then. -/
  replies : List Text

/-- How far a conversation has come. -/
structure Conversation (σ : Type) where
  run : Run σ
  buffer : TimedBuffer := {}
  /-- Messages not handled yet. -/
  queue : List Text := []
  /-- Octets not read yet. -/
  inbox : List UInt8 := []
  /-- The octets of a character that is not complete yet. -/
  carry : List UInt8 := []
  task? : Option Task := none
  /-- What was sent since it was last looked at. -/
  sent : List Text := []
  outcomes : List Outcome := []
  /-- Whether a timer of the framer ever came due. -/
  timedOut : Bool := false

/-- How far a conversation is to be carried on. -/
inductive Horizon where
  /-- Up to a moment. -/
  | moment (limit : Nat)
  /-- Until no command is being carried out and nothing is left to handle or to read. -/
  | idle

/-- Whether a moment is still within a horizon. `working` tells whether a command is being carried
out. -/
def Horizon.reaches (horizon : Horizon) (working : Bool) (due : Nat) : Bool :=
  match horizon with
  | .moment limit => due ≤ limit
  | .idle => working

/-- How many octets are read at a time. -/
def readSize : Nat := 4096

namespace Conversation

variable {σ : Type}

/-- A timer of the framer comes due. -/
def timeOut (framer : Framer) (kind : TimerKind) (timer : Timer) (conversation : Conversation σ) :
    Conversation σ :=
  let (messages, buffer) := conversation.buffer.fire framer kind timer
  { conversation with
    buffer
    queue := conversation.queue ++ messages
    timedOut := true }

/-- A command is done. -/
def complete (task : Task) (conversation : Conversation σ) : Conversation σ :=
  { conversation with
    buffer := { conversation.buffer with now := max conversation.buffer.now task.due }
    task? := none
    sent := conversation.sent ++ task.replies }

/-- Handle the first of the messages. Its replies are sent when the command is done. -/
def handleNext (server : Server σ) (message : Text) (queue : List Text)
    (conversation : Conversation σ) : Conversation σ :=
  let handled := server.handle message conversation.run
  let duration := handled.run.elapsed - conversation.run.elapsed
  let conversation :=
    { conversation with
      run := handled.run
      queue
      outcomes := conversation.outcomes ++ handled.outcomes }
  if duration = 0 then { conversation with sent := conversation.sent ++ handled.replies }
  else
    { conversation with task? := some ⟨conversation.buffer.now + duration, handled.replies⟩ }

/-- Read what has arrived, no more than can be read at a time. -/
def receive (framer : Framer) (conversation : Conversation σ) : Conversation σ :=
  let (text, carry) := Utf8.take conversation.carry (conversation.inbox.take readSize)
  let (messages, buffer) :=
    if text.isEmpty then ([], conversation.buffer) else conversation.buffer.append framer text
  { conversation with
    buffer
    queue := conversation.queue ++ messages
    inbox := conversation.inbox.drop readSize
    carry }

/-- The next thing to happen within a horizon. -/
def step? (server : Server σ) (framer : Framer) (horizon : Horizon)
    (conversation : Conversation σ) : Option (Conversation σ) :=
  match conversation.task? with
  | some task =>
      match conversation.buffer.first?.filter (·.2.due ≤ task.due) with
      | some (kind, timer) =>
          if horizon.reaches true timer.due then some (conversation.timeOut framer kind timer)
          else none
      | none => if horizon.reaches true task.due then some (conversation.complete task) else none
  | none =>
      match conversation.queue, conversation.inbox with
      | message :: queue, _ => some (conversation.handleNext server message queue)
      | [], _ :: _ => some (conversation.receive framer)
      | [], [] =>
          match conversation.buffer.first? with
          | some (kind, timer) =>
              if horizon.reaches false timer.due then
                some (conversation.timeOut framer kind timer)
              else none
          | none => none

/-- What is left to do: octets to read; then, timers to come due; then, messages to handle and a
command to be done, where a message counts twice since it may become a command. -/
def toDo (conversation : Conversation σ) : Nat × Nat × Nat :=
  (conversation.inbox.length, conversation.buffer.armed.toNat,
    2 * conversation.queue.length + conversation.task?.isSome.toNat)

/-- The order in which less is left to do. -/
def LessToDo (left right : Nat × Nat × Nat) : Prop :=
  Prod.Lex (· < ·) (Prod.Lex (· < ·) (· < ·)) left right

theorem toDo_timeOut (framer : Framer) {kind : TimerKind} {timer : Timer}
    {conversation : Conversation σ} (first : conversation.buffer.first? = some (kind, timer)) :
    LessToDo (conversation.timeOut framer kind timer).toDo conversation.toDo := by
  have before : conversation.buffer.armed = true := by
    have found := TimedBuffer.timer?_of_first? first
    cases kind <;> simp_all [TimedBuffer.timer?, TimedBuffer.armed]
  have after := TimedBuffer.armed_fire framer first
  refine Prod.Lex.right _ (Prod.Lex.left _ _ ?_)
  simp [timeOut, before, after]

theorem toDo_complete {task : Task} {conversation : Conversation σ}
    (working : conversation.task? = some task) :
    LessToDo (conversation.complete task).toDo conversation.toDo := by
  refine Prod.Lex.right _ (Prod.Lex.right _ ?_)
  simp [complete, working]

theorem toDo_handleNext (server : Server σ) {message : Text} {queue : List Text}
    {conversation : Conversation σ} (waiting : conversation.queue = message :: queue)
    (free : conversation.task? = none) :
    LessToDo (conversation.handleNext server message queue).toDo conversation.toDo := by
  unfold handleNext
  dsimp only
  split
  all_goals
    refine Prod.Lex.right _ (Prod.Lex.right _ ?_)
    simp [waiting, free, Nat.mul_add]

theorem toDo_receive (framer : Framer) {conversation : Conversation σ}
    (unread : conversation.inbox ≠ []) :
    LessToDo (conversation.receive framer).toDo conversation.toDo := by
  refine Prod.Lex.left _ _ ?_
  have positive := List.length_pos_iff.mpr unread
  simp [receive, readSize]
  omega

/-- Whatever happens next, less is left to do after it. -/
theorem toDo_step? (server : Server σ) (framer : Framer) (horizon : Horizon)
    {conversation next : Conversation σ}
    (step : conversation.step? server framer horizon = some next) :
    LessToDo next.toDo conversation.toDo := by
  unfold step? at step
  split at step
  case h_1 task working =>
    split at step
    case h_1 kind timer first =>
      have first := (Option.filter_eq_some_iff.mp first).1
      split at step <;> cases step
      exact toDo_timeOut framer first
    case h_2 =>
      split at step <;> cases step
      exact toDo_complete working
  case h_2 free =>
    split at step
    case h_1 message queue waiting =>
      cases step
      exact toDo_handleNext server waiting free
    case h_2 waiting unread =>
      cases step
      exact toDo_receive framer (by simp [unread])
    case h_3 =>
      split at step
      case h_1 kind timer first =>
        split at step <;> cases step
        exact toDo_timeOut framer first
      case h_2 => cases step

/-- Carry a conversation on up to a horizon. -/
def advance (server : Server σ) (framer : Framer) (horizon : Horizon)
    (conversation : Conversation σ) : Conversation σ :=
  match _step : conversation.step? server framer horizon with
  | some next => next.advance server framer horizon
  | none => conversation
termination_by conversation.toDo
decreasing_by exact toDo_step? server framer horizon _step

/-- Let time pass. -/
def wait (server : Server σ) (framer : Framer) (milliseconds : Nat)
    (conversation : Conversation σ) : Conversation σ :=
  let target := conversation.buffer.now + milliseconds
  let conversation := conversation.advance server framer (.moment target)
  { conversation with buffer := { conversation.buffer with now := target } }

end Conversation

/-- What the peer does. -/
inductive StreamEvent where
  /-- Octets arrive. -/
  | octets (octets : List UInt8)
  /-- Nothing arrives for a time. -/
  | pause (milliseconds : Nat)
deriving DecidableEq, Repr

namespace Conversation

variable {σ : Type}

/-- Let the peer do something, and all happen that can then happen. -/
def react (server : Server σ) (framer : Framer) (conversation : Conversation σ) :
    StreamEvent → Conversation σ
  | .octets octets =>
      ({ conversation with inbox := conversation.inbox ++ octets }).wait server framer 0
  | .pause milliseconds => conversation.wait server framer milliseconds

/-- No more octets come. What is pending is taken as it is, and all messages are handled. -/
def close (server : Server σ) (framer : Framer) (conversation : Conversation σ) :
    Conversation σ :=
  let conversation := conversation.advance server framer .idle
  let (messages, buffer) :=
    if conversation.carry.isEmpty then ([], conversation.buffer)
    else conversation.buffer.append framer (Utf8.abandon conversation.carry)
  let (last, buffer) := buffer.stop framer
  { conversation with
    buffer
    queue := conversation.queue ++ messages ++ last
    carry := [] }.advance server framer .idle

/-- Take what was sent since it was last looked at. -/
def takeSent (conversation : Conversation σ) : List Text × Conversation σ :=
  (conversation.sent, { conversation with sent := [] })

/-- Let the peer do one thing after another: what was sent after each. -/
def reactAll (server : Server σ) (framer : Framer) (conversation : Conversation σ) :
    List StreamEvent → List (List Text) × Conversation σ
  | [] => ([], conversation)
  | event :: events =>
      let (sent, conversation) := (conversation.react server framer event).takeSent
      let (later, conversation) := conversation.reactAll server framer events
      (sent :: later, conversation)

end Conversation

/-- What came of a whole stream. -/
structure Transcript (σ : Type) where
  /-- What was sent after each event. -/
  replies : List (List Text)
  /-- What was sent after the peer had closed its side. -/
  last : List Text
  final : Conversation σ

/-- Serve a stream from its beginning until the peer closes its side. -/
def Server.serve {σ : Type} (server : Server σ) (framer : Framer) (events : List StreamEvent)
    (run : Run σ) : Transcript σ :=
  let (replies, conversation) := ({ run } : Conversation σ).reactAll server framer events
  let (last, final) := (conversation.close server framer).takeSent
  ⟨replies, last, final⟩

end CommandLink
