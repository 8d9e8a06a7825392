import CommandLink.Demo.Camera
import CommandLink.Proofs.Server.Outlook

/-!
# Whole streams

How the outlook of a conversation fares from its beginning to its end. Events leave it as it is
apart from what was looked at on the way (`outlook_reactAll`), and when the peer has closed its side
it comes true (`outlook_close`). Hence a stream is answered as its lines are, one after another, in
whatever parts it arrives: `serve_eq_handleAll`.
-/

namespace CommandLink

variable {σ : Type}

namespace StreamEvent

/-- The octets that an event brings. -/
def arrival : StreamEvent → List UInt8
  | .octets arrived => arrived
  | .pause _ => []

/-- The octets that events bring. -/
def arrivals (events : List StreamEvent) : List UInt8 :=
  events.flatMap arrival

end StreamEvent

namespace Handled

/-- What came of messages, with replies in front that were sent before. -/
def after (sent : List Text) (handled : Handled σ) : Handled σ :=
  { handled with replies := sent ++ handled.replies }

theorem after_append (earlier later : List Text) (handled : Handled σ) :
    handled.after (earlier ++ later) = (handled.after later).after earlier := by
  simp [after]

end Handled

namespace Conversation

variable {server : Server σ} {framer : Framer} {conversation : Conversation σ}

/-- An event leaves the outlook as it is: the octets that it brings were to come. -/
theorem outlook_react (plain : framer.pattern? = none)
    (blank : ∀ c ∈ framer.terminators, isBlank c = true) (orderly : conversation.Orderly framer)
    (event : StreamEvent) (quiet : (conversation.react server framer event).timedOut = false) :
    (conversation.react server framer event).Orderly framer ∧
      ∀ future, (conversation.react server framer event).outlook server framer future =
        conversation.outlook server framer (event.arrival ++ future) := by
  cases event with
  | octets arrived =>
      have orderlyMore : ({ conversation with inbox := conversation.inbox ++ arrived } :
          Conversation σ).Orderly framer := ⟨orderly.inside, orderly.answered⟩
      obtain ⟨orderlyEnd, same⟩ := outlook_advance plain blank orderlyMore quiet
      refine ⟨⟨orderlyEnd.inside, orderlyEnd.answered⟩, fun future => ?_⟩
      refine (same future).trans ?_
      simp only [outlook, agenda, owed, StreamEvent.arrival, List.append_assoc]
  | pause milliseconds =>
      obtain ⟨orderlyEnd, same⟩ := outlook_advance plain blank orderly quiet
      exact ⟨⟨orderlyEnd.inside, orderlyEnd.answered⟩, fun future => same future⟩

/-- Octets that are dealt with at once take no time. -/
theorem react_octets {arrived : List UInt8} {last : Conversation σ}
    (reached : Conversation.advance server framer (.moment conversation.buffer.now)
      { conversation with inbox := conversation.inbox ++ arrived } = last)
    (kept : last.buffer.now = conversation.buffer.now) :
    conversation.react server framer (.octets arrived) = last := by
  simp only [react, wait, Nat.add_zero, reached]
  rw [← kept]

/-- Where nothing happens, time passes. -/
theorem react_pause {milliseconds : Nat}
    (still : conversation.step? server framer
      (.moment (conversation.buffer.now + milliseconds)) = none) :
    conversation.react server framer (.pause milliseconds) =
      { conversation with
        buffer := { conversation.buffer with now := conversation.buffer.now + milliseconds } } := by
  simp only [react, wait, advance_of_none still]

theorem timedOut_react {event : StreamEvent}
    (quiet : (conversation.react server framer event).timedOut = false) :
    conversation.timedOut = false := by
  cases event with
  | octets arrived =>
      change ({ conversation with inbox := conversation.inbox ++ arrived } :
        Conversation σ).timedOut = false
      exact timedOut_advance quiet
  | pause milliseconds => exact timedOut_advance quiet

/-- Looking at what was sent takes it out of the outlook. -/
theorem outlook_takeSent (future : List UInt8) :
    conversation.outlook server framer future =
      (conversation.takeSent.2.outlook server framer future).after conversation.sent := by
  simp [outlook, agenda, owed, takeSent, Handled.after]

theorem reactAll_cons (server : Server σ) (framer : Framer) (conversation : Conversation σ)
    (event : StreamEvent) (events : List StreamEvent) :
    conversation.reactAll server framer (event :: events) =
      let rest := (conversation.react server framer event).takeSent.2.reactAll server framer events
      ((conversation.react server framer event).sent :: rest.1, rest.2) :=
  rfl

theorem timedOut_reactAll {events : List StreamEvent}
    (quiet : (conversation.reactAll server framer events).2.timedOut = false) :
    conversation.timedOut = false := by
  induction events generalizing conversation with
  | nil => exact quiet
  | cons event events inductionHypothesis =>
      rw [reactAll_cons] at quiet
      have quietEvent := inductionHypothesis quiet
      exact timedOut_react quietEvent

/-- Events in order leave the outlook as it is, apart from what was looked at on the way. -/
theorem outlook_reactAll (plain : framer.pattern? = none)
    (blank : ∀ c ∈ framer.terminators, isBlank c = true) (orderly : conversation.Orderly framer)
    (events : List StreamEvent)
    (quiet : (conversation.reactAll server framer events).2.timedOut = false) :
    (conversation.reactAll server framer events).2.Orderly framer ∧
      ∀ future, conversation.outlook server framer (StreamEvent.arrivals events ++ future) =
        ((conversation.reactAll server framer events).2.outlook server framer future).after
          (conversation.reactAll server framer events).1.flatten := by
  induction events generalizing conversation with
  | nil => exact ⟨orderly, fun future => rfl⟩
  | cons event events inductionHypothesis =>
      rw [reactAll_cons] at quiet ⊢
      have quietEvent := timedOut_reactAll quiet
      obtain ⟨orderlyEvent, same⟩ := outlook_react plain blank orderly event quietEvent
      have orderlySent : (conversation.react server framer event).takeSent.2.Orderly framer :=
        ⟨orderlyEvent.inside, orderlyEvent.answered⟩
      obtain ⟨orderlyEnd, sameEnd⟩ := inductionHypothesis orderlySent quiet
      refine ⟨orderlyEnd, fun future => ?_⟩
      rw [StreamEvent.arrivals, List.flatMap_cons, List.append_assoc, ← same, outlook_takeSent]
      refine (congrArg (Handled.after _) (sameEnd future)).trans ?_
      exact (Handled.after_append _ _ _).symm

/-- Take what is pending as it is, because no more octets come. -/
def flushed (framer : Framer) (conversation : Conversation σ) : Conversation σ :=
  let (messages, buffer) :=
    if conversation.carry.isEmpty then ([], conversation.buffer)
    else conversation.buffer.append framer (Utf8.abandon conversation.carry)
  let (last, buffer) := buffer.stop framer
  { conversation with
    buffer
    queue := conversation.queue ++ messages ++ last
    carry := [] }

theorem close_eq (server : Server σ) (framer : Framer) (conversation : Conversation σ) :
    conversation.close server framer =
      ((conversation.advance server framer .idle).flushed framer).advance server framer .idle :=
  rfl

/-- Nothing that the peer sent is kept anywhere but in the queue. -/
structure Drained (conversation : Conversation σ) : Prop where
  inbox : conversation.inbox = []
  carry : conversation.carry = []
  pending : conversation.buffer.pending = []

/-- Without any text kept the agenda is the queue. -/
theorem Drained.agenda (drained : conversation.Drained) (framer : Framer) :
    conversation.agenda framer [] = conversation.queue := by
  simp [Conversation.agenda, drained.inbox, drained.carry, drained.pending, Utf8.abandon,
    Framer.lines]

/-- Flushing puts all that was kept into the queue. -/
theorem drained_flushed (read : conversation.inbox = []) :
    (conversation.flushed framer).Drained :=
  ⟨read, rfl, rfl⟩

theorem Orderly.flushed : (conversation.flushed framer).Orderly framer := by
  refine ⟨?_, rfl⟩
  intro c member
  cases member

/-- Flushing puts messages on the agenda in the place of the pieces of text that they complete. -/
theorem agenda_flushed (plain : framer.pattern? = none) (orderly : conversation.Orderly framer)
    (handled : conversation.queue = []) (read : conversation.inbox = []) :
    ∃ pieces messages rest, List.Forall₂ framer.Completes pieces messages ∧
      conversation.agenda framer [] = pieces ++ rest ∧
      (conversation.flushed framer).agenda framer [] = messages ++ rest := by
  rw [(drained_flushed read).agenda framer, agenda, handled, read]
  by_cases empty : conversation.carry = []
  · refine ⟨[], [], [conversation.buffer.pending].filter (!·.isEmpty), .nil, ?_, ?_⟩
    · simp only [empty, Utf8.abandon, Utf8.finish_nil, List.nil_append, List.append_nil,
        List.isEmpty_nil, if_true]
      exact framer.lines_eq_filter orderly.inside
    · simp only [flushed, empty, handled, List.isEmpty_nil, if_true, List.nil_append]
      exact TimedBuffer.messages_stop plain orderly.answered
  · let text := conversation.buffer.pending ++ Utf8.abandon conversation.carry
    refine ⟨framer.finished text, _, [framer.tail text].filter (!·.isEmpty),
      Framer.push_messages plain (Utf8.abandon conversation.carry) conversation.buffer.pending,
      ?_, ?_⟩
    · rw [List.nil_append, List.append_nil, Utf8.finish_nil]
      exact framer.lines_eq_finished_append text
    · have answered : (conversation.buffer.append framer
          (Utf8.abandon conversation.carry)).2.awaiting = false := by
        rw [TimedBuffer.awaiting_append, orderly.answered, Bool.false_and]
      simp only [flushed, empty, handled, List.isEmpty_iff, if_false, List.nil_append,
        TimedBuffer.messages_append, TimedBuffer.messages_stop plain answered,
        TimedBuffer.pending_append, Framer.push_pending plain]
      rfl

/-- Flushing changes nothing but where it is kept what the peer has sent. -/
theorem outlook_flushed (plain : framer.pattern? = none)
    (blank : ∀ c ∈ framer.terminators, isBlank c = true) (orderly : conversation.Orderly framer)
    (handled : conversation.queue = []) (read : conversation.inbox = []) :
    (conversation.flushed framer).outlook server framer [] =
      conversation.outlook server framer [] := by
  obtain ⟨pieces, messages, rest, completed, before, after⟩ :=
    agenda_flushed plain orderly handled read
  exact outlook_of_agenda blank completed before after rfl rfl rfl rfl

theorem drained_step? {next : Conversation σ} {horizon : Horizon} (drained : conversation.Drained)
    (step : conversation.step? server framer horizon = some next) (quiet : next.timedOut = false) :
    next.Drained := by
  obtain ⟨kind, timer, rfl⟩ | ⟨task, _, rfl⟩ | ⟨message, queue, _, _, rfl⟩ | ⟨_, _, rfl⟩ :=
    step?_cases step
  · cases quiet
  · exact ⟨drained.inbox, drained.carry, drained.pending⟩
  · unfold handleNext
    dsimp only
    split <;> exact ⟨drained.inbox, drained.carry, drained.pending⟩
  · constructor <;>
      simp [receive, Utf8.take, Utf8.read, Utf8.characters, drained.inbox, drained.carry,
        drained.pending]

theorem drained_advance {horizon : Horizon} (drained : conversation.Drained)
    (quiet : (conversation.advance server framer horizon).timedOut = false) :
    (conversation.advance server framer horizon).Drained := by
  fun_induction advance server framer horizon conversation with
  | case1 conversation next step inductionHypothesis =>
      exact inductionHypothesis (drained_step? drained step (timedOut_advance quiet)) quiet
  | case2 conversation still => exact drained

/-- The outlook of a conversation that nothing is left of is what came of it. -/
theorem outlook_of_idle (drained : conversation.Drained) (free : conversation.task? = none)
    (handled : conversation.queue = []) :
    conversation.outlook server framer [] =
      { replies := conversation.sent
        outcomes := conversation.outcomes
        run := conversation.run } := by
  simp [outlook, drained.agenda framer, owed, free, handled, Server.handleAll]

theorem timedOut_close (quiet : (conversation.close server framer).timedOut = false) :
    conversation.timedOut = false := by
  rw [close_eq] at quiet
  have quietFlushed := timedOut_advance quiet
  exact timedOut_advance quietFlushed

/-- When the peer has closed its side, the outlook comes true. -/
theorem outlook_close (plain : framer.pattern? = none)
    (blank : ∀ c ∈ framer.terminators, isBlank c = true) (orderly : conversation.Orderly framer)
    (quiet : (conversation.close server framer).timedOut = false) :
    conversation.outlook server framer [] =
      { replies := (conversation.close server framer).sent
        outcomes := (conversation.close server framer).outcomes
        run := (conversation.close server framer).run } := by
  rw [close_eq] at quiet ⊢
  obtain ⟨_, handled, read⟩ := idle_advance server framer conversation
  have quietFlushed := timedOut_advance quiet
  obtain ⟨orderlyIdle, sameIdle⟩ := outlook_advance plain blank orderly quietFlushed
  obtain ⟨_, sameEnd⟩ := outlook_advance plain blank (Orderly.flushed) quiet
  obtain ⟨freeEnd, handledEnd, _⟩ :=
    idle_advance server framer ((conversation.advance server framer .idle).flushed framer)
  have drained := drained_advance (drained_flushed read) quiet
  rw [← outlook_of_idle drained freeEnd handledEnd, sameEnd,
    outlook_flushed plain blank orderlyIdle handled read, sameIdle]

end Conversation

/-- All messages that were sent, in order. -/
def Transcript.sent (transcript : Transcript σ) : List Text :=
  transcript.replies.flatten ++ transcript.last

namespace Server

/-- What a server makes of a stream, if no timer of the framer comes due: it handles the lines of
the decoded text, each once and in order. -/
theorem outlook_serve (server : Server σ) {framer : Framer} (plain : framer.pattern? = none)
    (blank : ∀ c ∈ framer.terminators, isBlank c = true) (events : List StreamEvent) (run : Run σ)
    (quiet : (server.serve framer events run).final.timedOut = false) :
    server.handleAll (framer.lines (Utf8.decodeLossy (StreamEvent.arrivals events))) run =
      { replies := (server.serve framer events run).sent
        outcomes := (server.serve framer events run).final.outcomes
        run := (server.serve framer events run).final.run } := by
  let fresh : Conversation σ := { run }
  have orderly : fresh.Orderly framer := ⟨by simp [fresh], rfl⟩
  have quietClose : ((fresh.reactAll server framer events).2.close server framer).timedOut =
      false := quiet
  obtain ⟨orderlyEnd, same⟩ := Conversation.outlook_reactAll plain blank orderly events
    (Conversation.timedOut_close quietClose)
  have ended := Conversation.outlook_close plain blank orderlyEnd quietClose
  have start : fresh.outlook server framer (StreamEvent.arrivals events ++ []) =
      server.handleAll (framer.lines (Utf8.decodeLossy (StreamEvent.arrivals events))) run := by
    simp [Conversation.outlook, Conversation.agenda, Conversation.owed, fresh,
      Utf8.decodeLossy_eq_finish]
  rw [← start, same, ended]
  rfl

/-- If all terminators are white space and no timer of the framer comes due, a stream is answered as
the lines of its decoded text are, one after another: the same messages are sent, and the run ends
in the same way. So it does not matter in which parts the octets arrive. -/
theorem serve_eq_handleAll (server : Server σ) {framer : Framer} (plain : framer.pattern? = none)
    (blank : ∀ c ∈ framer.terminators, isBlank c = true) (events : List StreamEvent) (run : Run σ)
    (quiet : (server.serve framer events run).final.timedOut = false) :
    let transcript := server.serve framer events run
    let handled :=
      server.handleAll (framer.lines (Utf8.decodeLossy (StreamEvent.arrivals events))) run
    (transcript.sent = handled.replies ∧ transcript.final.run = handled.run ∧
        transcript.final.outcomes = handled.outcomes) ∧
      ∀ others, StreamEvent.arrivals others = StreamEvent.arrivals events →
        (server.serve framer others run).final.timedOut = false →
        (server.serve framer others run).sent = transcript.sent ∧
          (server.serve framer others run).final.run = transcript.final.run := by
  intro transcript handled
  have served := server.outlook_serve plain blank events run quiet
  refine ⟨⟨?_, ?_, ?_⟩, ?_⟩
  · exact congrArg Handled.replies served.symm
  · exact congrArg Handled.run served.symm
  · exact congrArg Handled.outcomes served.symm
  · intro others same quietOthers
    have servedOthers := server.outlook_serve plain blank others run quietOthers
    rw [same, served] at servedOthers
    exact ⟨congrArg Handled.replies servedOthers.symm, congrArg Handled.run servedOthers.symm⟩

/-- A server for a camera whose sensitivity goes by a name of one letter. -/
def cameraServer : Server Camera where
  interpreter := { components := [Camera.component 0 ⟨id, fun camera _ => camera, fun _ _ => rfl⟩] }
  aliases? := some fun _ => [{ internal := "Iso", inputs := ["Ü"] }]

/-- Messages end with their line. -/
def lineFramer : Framer :=
  ⟨"\r\n", none, 2000, 100⟩

/-- The line of that letter, cut within the letter and between its terminators. -/
def cutLine : List StreamEvent :=
  [.octets [0xC3], .pause 50, .octets [0x9C, 0x0D], .octets [0x0A]]

open Conversation in
theorem quiet_cutLine :
    (cameraServer.serve lineFramer cutLine { state := {} }).final.timedOut = false := by
  let fresh : Conversation Camera := { run := { state := {} } }
  let halved : Conversation Camera := { fresh with carry := [0xC3] }
  let later : Conversation Camera := { halved with buffer := { now := 50 } }
  let heard : Conversation Camera := { fresh with buffer := { now := 50 }, queue := ["Ü\r"] }
  let served : Conversation Camera :=
    { fresh with buffer := { now := 50 }, outcomes := [⟨"Iso", .ok "Iso:100"⟩] }
  let told : Conversation Camera := { served with sent := ["Iso:100"] }
  have first : fresh.react cameraServer lineFramer (.octets [0xC3]) = halved :=
    react_octets ((advance_of_some rfl).trans (advance_of_none rfl)) rfl
  have second : halved.react cameraServer lineFramer (.pause 50) = later :=
    react_pause rfl
  have third : later.react cameraServer lineFramer (.octets [0x9C, 0x0D]) = told := by
    have answer : cameraServer.handle "Ü\r" { state := {} } =
        { replies := ["Iso:100"]
          outcomes := [⟨"Iso", .ok "Iso:100"⟩]
          run := { state := {} } } := rfl
    have handled : heard.step? cameraServer lineFramer (.moment 50) = some told := by
      change some (heard.handleNext cameraServer "Ü\r" []) = some told
      simp only [handleNext, heard, fresh, answer]
      rfl
    have answered : heard.advance cameraServer lineFramer (.moment 50) = told :=
      (advance_of_some handled).trans (advance_of_none rfl)
    exact react_octets ((advance_of_some rfl).trans answered) rfl
  have fourth : served.react cameraServer lineFramer (.octets [0x0A]) = served :=
    react_octets ((advance_of_some rfl).trans (advance_of_none rfl)) rfl
  have reacted : (fresh.reactAll cameraServer lineFramer cutLine).2 = served := by
    simp only [cutLine, reactAll_cons, first]
    rw [show halved.takeSent.2 = halved from rfl, second, show later.takeSent.2 = later from rfl,
      third, show told.takeSent.2 = served from rfl, fourth]
    rfl
  have closed : served.close cameraServer lineFramer = served := by
    have idle : served.advance cameraServer lineFramer .idle = served := advance_of_none rfl
    rw [close_eq, idle]
    exact idle
  change ((fresh.reactAll cameraServer lineFramer cutLine).2.close cameraServer
    lineFramer).timedOut = false
  rw [reacted, closed]

/-- The cut line is answered as a whole one is. -/
theorem serve_eq_handleAll_cutLine :
    (cameraServer.serve lineFramer cutLine { state := {} }).sent = ["Iso:100"] := by
  have blank : lineFramer.terminators.all isBlank = true := rfl
  obtain ⟨⟨sent, _, _⟩, _⟩ := cameraServer.serve_eq_handleAll rfl (List.all_eq_true.mp blank)
    cutLine { state := {} } quiet_cutLine
  exact sent

end Server

end CommandLink
