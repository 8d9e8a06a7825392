import CommandLink.Proofs.Server.Streams

/-!
# A command that arrives at once

A conversation first reads the command and its terminators (`Reading`), whatever parts it reads them
in. With the first terminators that it reads the message is complete, and from then on nothing but
terminators is to come (`Ending`), which are dropped. No timer comes due in either phase, so the
message is handled as it is: `handleAll_eq_serve_octets`.
-/

namespace CommandLink

variable {σ : Type}

namespace Conversation

/-- Nothing more is to come than terminators, nothing is pending, and no timer runs. -/
structure Ending (framer : Framer) (conversation : Conversation σ) : Prop where
  pending : conversation.buffer.pending = []
  unarmed : conversation.buffer.armed = false
  answered : conversation.buffer.awaiting = false
  rest : ∃ ending : Text, (∀ c ∈ ending, framer.ends c = true) ∧
    Utf8.read conversation.carry conversation.inbox = (ending.map some, [])

/-- Nothing has been handled yet. A command and its terminators are to be read, of which a part of
the command may be pending already. -/
structure Reading (framer : Framer) (command ending : Text) (run : Run σ)
    (conversation : Conversation σ) : Prop where
  run_eq : conversation.run = run
  unsent : conversation.sent = []
  unreported : conversation.outcomes = []
  free : conversation.task? = none
  waiting : conversation.queue = []
  answered : conversation.buffer.awaiting = false
  rest : ∃ rest, conversation.buffer.pending ++ rest = command ∧
    Utf8.read conversation.carry conversation.inbox = ((rest ++ ending).map some, [])

variable {server : Server σ} {framer : Framer} {horizon : Horizon} {command ending : Text}
  {run : Run σ} {conversation next : Conversation σ}

/-- While no timer runs, a command is done, a message is handled, or something is read. -/
theorem step?_cases_of_unarmed (unarmed : conversation.buffer.armed = false)
    (step : conversation.step? server framer horizon = some next) :
    (∃ task, conversation.task? = some task ∧ next = conversation.complete task) ∨
      (∃ message queue, conversation.task? = none ∧ conversation.queue = message :: queue ∧
        next = conversation.handleNext server message queue) ∨
      next = conversation.receive framer := by
  have silent := TimedBuffer.first?_of_not_armed unarmed
  unfold step? at step
  simp only [silent, Option.filter_none] at step
  split at step
  case h_1 task working =>
    split at step <;> cases step
    exact .inl ⟨task, working, rfl⟩
  case h_2 free =>
    split at step
    case h_1 message queue waiting =>
      cases step
      exact .inr (.inl ⟨message, queue, free, waiting, rfl⟩)
    case h_2 =>
      cases step
      exact .inr (.inr rfl)
    case h_3 => cases step

namespace Ending

/-- Without any more lines the agenda is the queue. -/
theorem agenda (finished : conversation.Ending framer) :
    conversation.agenda framer [] = conversation.queue := by
  obtain ⟨ending, terminators, reads⟩ := finished.rest
  rw [Conversation.agenda, List.append_nil, finished.pending, List.nil_append,
    Utf8.finish_of_read reads, framer.lines_eq_nil terminators, List.append_nil]

/-- Terminators that are read by themselves are dropped. -/
theorem receive (plain : framer.pattern? = none) (finished : conversation.Ending framer) :
    (conversation.receive framer).Ending framer ∧
      (conversation.receive framer).queue = conversation.queue := by
  obtain ⟨ending, terminators, reads⟩ := finished.rest
  obtain ⟨front, back, unfinished, rfl, taken, later⟩ := Utf8.exists_take_of_read reads readSize
  rw [List.forall_mem_append] at terminators
  simp only [Conversation.receive, taken]
  by_cases empty : front = []
  · simp only [empty, List.isEmpty_nil, if_true]
    exact ⟨⟨finished.pending, finished.unarmed, finished.answered, back, terminators.2, later⟩,
      List.append_nil _⟩
  · have pushed : framer.push front conversation.buffer.pending = ([], []) :=
      Framer.push_of_ended plain (by rw [finished.pending]) (List.forall_mem_nil _) terminators.1
        empty
    have answered : (conversation.buffer.append framer front).2.awaiting = false := by
      rw [TimedBuffer.awaiting_append, finished.answered, Bool.false_and]
    simp only [List.isEmpty_iff, empty, if_false, TimedBuffer.messages_append, pushed]
    refine ⟨⟨?_, ?_, ?_, back, terminators.2, later⟩, List.append_nil _⟩
    · rw [TimedBuffer.pending_append, pushed]
    · exact TimedBuffer.armed_append_of_complete _ _ _ (by rw [pushed]) answered
    · exact answered

/-- Whatever happens next, no timer comes due, and the outlook stays as it is. -/
theorem step? (plain : framer.pattern? = none) (finished : conversation.Ending framer)
    (step : conversation.step? server framer horizon = some next) :
    next.Ending framer ∧
      next.outlook server framer [] = conversation.outlook server framer [] := by
  obtain ⟨task, working, rfl⟩ | ⟨message, queue, free, waiting, rfl⟩ | rfl :=
    step?_cases_of_unarmed finished.unarmed step
  · refine ⟨⟨finished.pending, ?_, finished.answered, finished.rest⟩, outlook_complete working []⟩
    exact finished.unarmed
  · refine ⟨?_, outlook_handleNext free waiting []⟩
    unfold handleNext
    dsimp only
    split <;> exact ⟨finished.pending, finished.unarmed, finished.answered, finished.rest⟩
  · obtain ⟨finishedNext, queue⟩ := finished.receive plain
    refine ⟨finishedNext, ?_⟩
    simp only [outlook, finishedNext.agenda, finished.agenda, queue]
    rfl

theorem advance (server : Server σ) (horizon : Horizon) (plain : framer.pattern? = none)
    (finished : conversation.Ending framer) :
    (conversation.advance server framer horizon).Ending framer ∧
      (conversation.advance server framer horizon).outlook server framer [] =
        conversation.outlook server framer [] := by
  fun_induction Conversation.advance server framer horizon conversation with
  | case1 conversation next step inductionHypothesis =>
      obtain ⟨finishedNext, same⟩ := finished.step? plain step
      obtain ⟨finishedEnd, sameEnd⟩ := inductionHypothesis finishedNext
      exact ⟨finishedEnd, sameEnd.trans same⟩
  | case2 conversation still => exact ⟨finished, rfl⟩

/-- When the peer closes its side, nothing is left to flush. -/
theorem flushed (server : Server σ) (plain : framer.pattern? = none)
    (finished : conversation.Ending framer) (read : conversation.inbox = []) :
    (conversation.flushed framer).Ending framer ∧
      (conversation.flushed framer).outlook server framer [] =
        conversation.outlook server framer [] := by
  obtain ⟨ending, _, reads⟩ := finished.rest
  rw [read] at reads
  obtain ⟨-, whole⟩ := Utf8.eq_nil_of_read_nil reads
  have finishedEnd : (conversation.flushed framer).Ending framer := by
    refine ⟨rfl, rfl, rfl, [], List.forall_mem_nil _, ?_⟩
    simp [Conversation.flushed, read, Utf8.read]
  refine ⟨finishedEnd, ?_⟩
  have queue : (conversation.flushed framer).queue = conversation.queue := by
    simp [Conversation.flushed, whole, TimedBuffer.messages_stop plain finished.answered,
      finished.pending]
  simp only [outlook, finishedEnd.agenda, finished.agenda, queue]
  rfl

/-- When the peer has closed its side, the outlook comes true. -/
theorem close (plain : framer.pattern? = none) (finished : conversation.Ending framer) :
    conversation.outlook server framer [] =
      { replies := (conversation.close server framer).sent
        outcomes := (conversation.close server framer).outcomes
        run := (conversation.close server framer).run } := by
  let idle := conversation.advance server framer .idle
  obtain ⟨_, _, read⟩ := idle_advance server framer conversation
  obtain ⟨free, handled, readEnd⟩ := idle_advance server framer (idle.flushed framer)
  obtain ⟨finishedIdle, sameIdle⟩ := finished.advance server .idle plain
  obtain ⟨finishedFlushed, sameFlushed⟩ := finishedIdle.flushed server plain read
  obtain ⟨finishedEnd, sameEnd⟩ := finishedFlushed.advance server .idle plain
  obtain ⟨rest, _, reads⟩ := finishedEnd.rest
  rw [readEnd] at reads
  have drained : ((idle.flushed framer).advance server framer .idle).Drained :=
    ⟨readEnd, (Utf8.eq_nil_of_read_nil reads).2, finishedEnd.pending⟩
  rw [close_eq, ← outlook_of_idle drained free handled, sameEnd, sameFlushed, sameIdle]

end Ending

namespace Reading

/-- While the command is being read, there is something to be read. -/
theorem inbox_ne_nil (reading : conversation.Reading framer command ending run)
    (ended : ending ≠ []) : conversation.inbox ≠ [] := by
  intro read
  obtain ⟨rest, _, reads⟩ := reading.rest
  rw [read] at reads
  exact ended (List.append_eq_nil_iff.mp (Utf8.eq_nil_of_read_nil reads).1).2

theorem step?_eq (reading : conversation.Reading framer command ending run) (ended : ending ≠ []) :
    conversation.step? server framer horizon = some (conversation.receive framer) := by
  obtain ⟨octet, octets, unread⟩ := List.exists_cons_of_ne_nil (reading.inbox_ne_nil ended)
  simp only [step?, reading.free, reading.waiting, unread]

/-- What is read of the command stays pending. -/
theorem receive_of_unended (plain : framer.pattern? = none)
    (inside : ∀ c ∈ command, framer.ends c = false)
    (reading : conversation.Reading framer command ending run) {front rest : Text}
    {unfinished : List UInt8} (partly : conversation.buffer.pending ++ (front ++ rest) = command)
    (taken : Utf8.take conversation.carry (conversation.inbox.take readSize) = (front, unfinished))
    (later : Utf8.read unfinished (conversation.inbox.drop readSize) =
      ((rest ++ ending).map some, [])) :
    (conversation.receive framer).Reading framer command ending run := by
  simp only [Conversation.receive, taken]
  by_cases empty : front = []
  · rw [empty, List.nil_append] at partly
    simp only [empty, List.isEmpty_nil, if_true]
    exact ⟨reading.run_eq, reading.unsent, reading.unreported, reading.free,
      by simp [reading.waiting], reading.answered, rest, partly, later⟩
  · rw [← List.append_assoc] at partly
    have pushed : framer.push front conversation.buffer.pending =
        ([], conversation.buffer.pending ++ front) :=
      Framer.push_of_unended plain
        (fun c member => inside c (partly ▸ List.mem_append_left rest member))
        (List.append_ne_nil_of_right_ne_nil _ empty)
    simp only [List.isEmpty_iff, empty, if_false, TimedBuffer.messages_append, pushed]
    refine ⟨reading.run_eq, reading.unsent, reading.unreported, reading.free, ?_, ?_, rest, ?_,
      later⟩
    · rw [reading.waiting, List.append_nil]
    · rw [TimedBuffer.awaiting_append, reading.answered, Bool.false_and]
    · rw [TimedBuffer.pending_append, pushed, partly]

/-- The first terminators that are read complete the message. -/
theorem receive_of_ended (plain : framer.pattern? = none)
    (inside : ∀ c ∈ command, framer.ends c = false)
    (reading : conversation.Reading framer command ending run) {rest front back : Text}
    {unfinished : List UInt8} (partly : conversation.buffer.pending ++ rest = command)
    (terminators : ∀ c ∈ front ++ back, framer.ends c = true) (filled : front ≠ [])
    (taken : Utf8.take conversation.carry (conversation.inbox.take readSize) =
      (rest ++ front, unfinished))
    (later : Utf8.read unfinished (conversation.inbox.drop readSize) = (back.map some, [])) :
    (conversation.receive framer).Ending framer ∧
      (conversation.receive framer).queue = [command ++ front].filter fun _ => !command.isEmpty := by
  rw [List.forall_mem_append] at terminators
  have whole : conversation.buffer.pending ++ (rest ++ front) = command ++ front := by
    rw [← List.append_assoc, partly]
  have pushed := Framer.push_of_ended plain whole inside terminators.1 filled
  have some_text : rest ++ front ≠ [] := List.append_ne_nil_of_right_ne_nil _ filled
  have answered : (conversation.buffer.append framer (rest ++ front)).2.awaiting = false := by
    rw [TimedBuffer.awaiting_append, reading.answered, Bool.false_and]
  simp only [Conversation.receive, taken, List.isEmpty_iff, some_text, if_false,
    TimedBuffer.messages_append, pushed]
  refine ⟨⟨?_, ?_, ?_, back, terminators.2, later⟩, ?_⟩
  · rw [TimedBuffer.pending_append, pushed]
  · exact TimedBuffer.armed_append_of_complete _ _ _ (by rw [pushed]) answered
  · exact answered
  · rw [reading.waiting, List.nil_append]

/-- Reading goes on until terminators are read; then there is a message, if there is a command. -/
theorem receive (plain : framer.pattern? = none) (inside : ∀ c ∈ command, framer.ends c = false)
    (terminators : ∀ c ∈ ending, framer.ends c = true)
    (reading : conversation.Reading framer command ending run) :
    (conversation.receive framer).Reading framer command ending run ∨
      ∃ front, front ≠ [] ∧ front <+: ending ∧ (conversation.receive framer).Ending framer ∧
        (conversation.receive framer).queue =
          [command ++ front].filter fun _ => !command.isEmpty := by
  obtain ⟨rest, partly, reads⟩ := reading.rest
  obtain ⟨taken, left, unfinished, split, takes, later⟩ :=
    Utf8.exists_take_of_read reads readSize
  -- What is taken ends within the command, or behind some of the terminators.
  rcases List.append_eq_append_iff.mp split.symm with ⟨more, rfl, rfl⟩ | ⟨front, rfl, rfl⟩
  · exact .inl (reading.receive_of_unended plain inside partly takes later)
  · by_cases none : front = []
    · subst none
      rw [List.append_nil] at takes
      rw [← List.append_nil rest] at partly
      exact .inl (reading.receive_of_unended plain inside partly takes later)
    · exact .inr ⟨front, none, List.prefix_append front left,
        reading.receive_of_ended plain inside partly terminators none takes later⟩

/-- The message is handled as it is, with the terminators that were read with the command. -/
theorem advance (server : Server σ) (horizon : Horizon) (plain : framer.pattern? = none)
    (inside : ∀ c ∈ command, framer.ends c = false)
    (terminators : ∀ c ∈ ending, framer.ends c = true) (ended : ending ≠ [])
    (reading : conversation.Reading framer command ending run) :
    ∃ front, front ≠ [] ∧ front <+: ending ∧
      (conversation.advance server framer horizon).Ending framer ∧
      (conversation.advance server framer horizon).outlook server framer [] =
        server.handleAll ([command ++ front].filter fun _ => !command.isEmpty) run := by
  fun_induction Conversation.advance server framer horizon conversation with
  | case1 conversation next step inductionHypothesis =>
      rw [reading.step?_eq ended] at step
      cases step
      rcases reading.receive plain inside terminators with
        still | ⟨front, filled, leads, finished, queue⟩
      · exact inductionHypothesis still
      · obtain ⟨finishedEnd, same⟩ := finished.advance server horizon plain
        refine ⟨front, filled, leads, finishedEnd, ?_⟩
        have started : (conversation.receive framer).run = run := reading.run_eq
        have unsent : (conversation.receive framer).sent = [] := reading.unsent
        have unreported : (conversation.receive framer).outcomes = [] := reading.unreported
        have owes : (conversation.receive framer).owed = [] := by
          simp [owed, Conversation.receive, reading.free]
        rw [same, outlook, finished.agenda, queue, started, unsent, unreported, owes]
        rfl
  | case2 conversation still =>
      rw [reading.step?_eq ended] at still
      cases still

end Reading

end Conversation

namespace Server

/-- A command that arrives at once with its terminators is handled as it arrives: together with one
or more of the terminators. Without a command nothing is handled. -/
theorem handleAll_eq_serve_octets (server : Server σ) {framer : Framer}
    (plain : framer.pattern? = none) {command ending : Text}
    (inside : ∀ c ∈ command, framer.ends c = false)
    (terminators : ∀ c ∈ ending, framer.ends c = true) (ended : ending ≠ []) (run : Run σ) :
    let transcript := server.serve framer [.octets (Utf8.encode (command ++ ending))] run
    ∃ front, front ≠ [] ∧ front <+: ending ∧
      server.handleAll ([command ++ front].filter fun _ => !command.isEmpty) run =
        { replies := transcript.sent
          outcomes := transcript.final.outcomes
          run := transcript.final.run } := by
  intro transcript
  let begun : Conversation σ := { run, inbox := Utf8.encode (command ++ ending) }
  have reading : begun.Reading framer command ending run :=
    ⟨rfl, rfl, rfl, rfl, rfl, rfl, command, rfl, Utf8.read_encode _⟩
  obtain ⟨front, filled, leads, finished, same⟩ :=
    reading.advance server (.moment 0) plain inside terminators ended
  refine ⟨front, filled, leads, ?_⟩
  let reacted := ({ run } : Conversation σ).react server framer
    (.octets (Utf8.encode (command ++ ending)))
  have finishedReacted : reacted.takeSent.2.Ending framer :=
    ⟨finished.pending, finished.unarmed, finished.answered, finished.rest⟩
  have expected : reacted.outlook server framer [] =
      server.handleAll ([command ++ front].filter fun _ => !command.isEmpty) run := same
  rw [← expected, Conversation.outlook_takeSent, finishedReacted.close plain]
  simp [Handled.after, transcript, Server.serve, Conversation.reactAll, Transcript.sent, reacted,
    Conversation.takeSent]

/-- A single terminator is always read with its command, and reaches it. -/
theorem sent_serve_octets_concat (server : Server σ) {framer : Framer}
    (plain : framer.pattern? = none) {command : Text} {c : Char} (filled : command ≠ [])
    (inside : ∀ c ∈ command, framer.ends c = false) (isEnd : framer.ends c = true) (run : Run σ) :
    (server.serve framer [.octets (Utf8.encode (command ++ [c]))] run).sent =
      (server.handle (command ++ [c]) run).replies := by
  have terminators : ∀ d ∈ [c], framer.ends d = true := by simp [isEnd]
  obtain ⟨front, some_terminator, leads, served⟩ :=
    server.handleAll_eq_serve_octets plain inside terminators (List.cons_ne_nil c []) run
  obtain rfl : front = [c] := by
    obtain ⟨d, rest, rfl⟩ := List.exists_cons_of_ne_nil some_terminator
    obtain ⟨rfl, ends⟩ := List.cons_prefix_cons.mp leads
    rw [List.prefix_nil.mp ends]
  have replies := (congrArg Handled.replies served).symm
  simpa [filled, handleAll] using replies

end Server

end CommandLink
