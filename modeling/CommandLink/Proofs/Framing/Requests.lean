import CommandLink.Proofs.Framing.Deadlines

/-!
# Answers to requests

A request is open until something is emitted, and while it is open the master timer that it started
runs on. So it is answered when the buffer is stopped, and when the master timer is due at the
latest; and unless the framer has a pattern, the answer is empty only if nothing was emitted before
(`replies_of_request`).
-/

namespace CommandLink.TimedBuffer

/-- What is emitted in the events that follow a request. -/
def replies (framer : Framer) (earlier later : List Event) : List Text :=
  (performAll framer later ((after framer earlier).start framer)).1

/-- Nothing has been emitted since the last request of a history. -/
def Unanswered (framer : Framer) (events : List Event) : Prop :=
  ∃ earlier later, events = earlier ++ .start :: later ∧ .start ∉ later ∧
    replies framer earlier later = []

/-- Some wait among the events that follow a history ends at a moment or after it. -/
def Reaches (earlier later : List Event) (moment : Nat) : Prop :=
  ∃ between milliseconds rest, later = between ++ .wait milliseconds :: rest ∧
    moment ≤ elapsed earlier + elapsed between + milliseconds

variable {framer : Framer}

theorem after_request (framer : Framer) (earlier later : List Event) :
    after framer (earlier ++ .start :: later) =
      (performAll framer later ((after framer earlier).start framer)).2 := by
  rw [after_append]
  rfl

/-- What an event comes to that is neither a fragment nor a request: it stops the buffer, or only
the clock goes on. -/
theorem perform_neutral_cases (framer : Framer) {event : Event} (neutral : event.isNeutral = true)
    (buffer : TimedBuffer) :
    buffer.perform framer event = ((buffer.stop framer).1,
      { (buffer.stop framer).2 with now := buffer.now + event.duration }) ∨
    buffer.perform framer event = ([], { buffer with now := buffer.now + event.duration }) := by
  cases event with
  | append | start => cases neutral
  | stop => exact .inl rfl
  | expire kind token =>
      rw [perform, expire]
      split
      · exact .inl rfl
      · exact .inr rfl
  | pass milliseconds => exact .inr rfl
  | wait milliseconds =>
      rw [perform]
      obtain ⟨_, _, _, _, fired⟩ | ⟨_, idle⟩ := wait_cases framer milliseconds buffer
      · exact .inl fired
      · exact .inr idle

/-- An open request is answered when the buffer is stopped. -/
theorem messages_stop_ne_nil {buffer : TimedBuffer} (opened : buffer.awaiting = true) :
    (buffer.stop framer).1 ≠ [] := by
  simp only [stop, drain, awaiting_disarm, opened, if_true]
  split <;> exact List.cons_ne_nil _ _

/-- A request stays open as long as nothing is emitted. -/
theorem awaiting_perform {event : Event} (goesOn : event ≠ .start) (buffer : TimedBuffer) :
    (buffer.perform framer event).2.awaiting =
      (buffer.awaiting && (buffer.perform framer event).1.isEmpty) := by
  have ofNeutral (neutral : event.isNeutral = true) :
      (buffer.perform framer event).2.awaiting =
        (buffer.awaiting && (buffer.perform framer event).1.isEmpty) := by
    rcases perform_neutral_cases framer neutral buffer with stopped | idle
    · rw [stopped]
      cases opened : buffer.awaiting with
      | false => rfl
      | true =>
          have answered : (buffer.stop framer).1 ≠ [] := messages_stop_ne_nil opened
          simpa [stop, drain] using answered
    · rw [idle]
      simp
  cases event with
  | append fragment =>
      rw [perform, awaiting_append, messages_append]
  | start => exact absurd rfl goesOn
  | stop | expire | pass | wait => exact ofNeutral rfl

theorem performAll_cons (framer : Framer) (event : Event) (rest : List Event)
    (buffer : TimedBuffer) :
    performAll framer (event :: rest) buffer =
      ((buffer.perform framer event).1 ++
          (performAll framer rest (buffer.perform framer event).2).1,
        (performAll framer rest (buffer.perform framer event).2).2) :=
  rfl

theorem awaiting_performAll {events : List Event} (goesOn : .start ∉ events)
    (buffer : TimedBuffer) :
    (performAll framer events buffer).2.awaiting =
      (buffer.awaiting && (performAll framer events buffer).1.isEmpty) := by
  induction events generalizing buffer with
  | nil => simp [performAll]
  | cons event events inductionHypothesis =>
      rw [List.mem_cons, not_or] at goesOn
      rw [performAll_cons, inductionHypothesis goesOn.2, awaiting_perform (Ne.symm goesOn.1),
        Bool.and_assoc]
      cases (buffer.perform framer event).1 <;> rfl

/-- The master timer of an open request runs on as long as nothing is emitted. -/
theorem due?_master_perform {event : Event} (goesOn : event ≠ .start) {buffer : TimedBuffer}
    {moment : Nat} (opened : buffer.awaiting = true) (due : buffer.due? .master = some moment)
    (silent : (buffer.perform framer event).1 = []) :
    (buffer.perform framer event).2.due? .master = some moment := by
  have ofNeutral (neutral : event.isNeutral = true) :
      (buffer.perform framer event).2.due? .master = some moment := by
    rcases perform_neutral_cases framer neutral buffer with stopped | idle
    · rw [stopped] at silent
      exact absurd silent (messages_stop_ne_nil opened)
    · rw [idle]
      exact due
  cases event with
  | append fragment =>
      rw [perform] at silent ⊢
      rw [messages_append] at silent
      by_cases filled : (framer.push fragment buffer.pending).2 = []
      · have kept : (buffer.append framer fragment).2.master? = buffer.master? := by
          simp [append, filled, silent, opened]
        rw [due?, timer?, kept]
        exact due
      · rw [(due?_append filled).1, due, Option.getD_some]
  | start => exact absurd rfl goesOn
  | stop | expire | pass | wait => exact ofNeutral rfl

theorem due?_master_performAll {events : List Event} (goesOn : .start ∉ events)
    {buffer : TimedBuffer} {moment : Nat} (opened : buffer.awaiting = true)
    (due : buffer.due? .master = some moment) (silent : (performAll framer events buffer).1 = []) :
    (performAll framer events buffer).2.due? .master = some moment := by
  induction events generalizing buffer with
  | nil => exact due
  | cons event events inductionHypothesis =>
      rw [List.mem_cons, not_or] at goesOn
      rw [performAll_cons] at silent ⊢
      obtain ⟨silentFirst, silentRest⟩ := List.append_eq_nil_iff.mp silent
      have stillOpen : (buffer.perform framer event).2.awaiting = true := by
        rw [awaiting_perform (Ne.symm goesOn.1), opened, silentFirst]
        rfl
      exact inductionHypothesis goesOn.2 stillOpen
        (due?_master_perform (Ne.symm goesOn.1) opened due silentFirst) silentRest

/-- Some timer is due first if any runs, and no later than that one. -/
theorem exists_first?_le {buffer : TimedBuffer} {kind : TimerKind} {moment : Nat}
    (due : buffer.due? kind = some moment) :
    ∃ first timer, buffer.first? = some (first, timer) ∧ timer.due ≤ moment := by
  obtain ⟨timer, runs, rfl⟩ := Option.map_eq_some_iff.mp due
  unfold first?
  cases kind with
  | master =>
      rw [timer?] at runs
      rw [runs]
      cases other : buffer.data? with
      | none => exact ⟨.master, timer, rfl, Nat.le_refl _⟩
      | some data =>
          by_cases earlier : timer.due ≤ data.due
          · exact ⟨.master, timer, by simp [earlier], Nat.le_refl _⟩
          · exact ⟨.data, data, by simp [earlier], Nat.le_of_not_le earlier⟩
  | data =>
      rw [timer?] at runs
      rw [runs]
      cases other : buffer.master? with
      | none => exact ⟨.data, timer, rfl, Nat.le_refl _⟩
      | some master =>
          by_cases earlier : master.due ≤ timer.due
          · exact ⟨.master, master, by simp [earlier], earlier⟩
          · exact ⟨.data, timer, by simp [earlier], Nat.le_refl _⟩

/-- Whoever waits until a timer is due gets the answer to an open request. -/
theorem messages_wait_ne_nil {buffer : TimedBuffer} {kind : TimerKind} {moment milliseconds : Nat}
    (opened : buffer.awaiting = true) (due : buffer.due? kind = some moment)
    (reached : moment ≤ buffer.now + milliseconds) : (buffer.wait framer milliseconds).1 ≠ [] := by
  rcases wait_cases framer milliseconds buffer with ⟨_, _, _, _, fired⟩ | ⟨early, _⟩
  · rw [fired]
    exact messages_stop_ne_nil opened
  · obtain ⟨first, timer, found, le⟩ := exists_first?_le due
    have later := early first timer found
    omega

/-- A message that a terminator completes is not empty. -/
theorem nil_notMem_push (plain : framer.pattern? = none) (fragment pending : Text) :
    [] ∉ (framer.push fragment pending).1 := by
  intro member
  obtain ⟨c, inside, _⟩ := Framer.exists_not_ends_of_completes
    (Framer.push_messages plain fragment pending) (fun _ => framer.mem_finished) [] member
  cases inside

/-- Without a pattern, an empty message is the answer to an open request, and comes alone. -/
theorem messages_of_nil_mem (plain : framer.pattern? = none) {event : Event}
    {buffer : TimedBuffer} (member : [] ∈ (buffer.perform framer event).1) :
    buffer.awaiting = true ∧ (buffer.perform framer event).1 = [[]] := by
  have ofNeutral (neutral : event.isNeutral = true) :
      buffer.awaiting = true ∧ (buffer.perform framer event).1 = [[]] := by
    rcases perform_neutral_cases framer neutral buffer with stopped | idle
    · rw [stopped] at member ⊢
      cases opened : buffer.awaiting with
      | false => simp [messages_stop plain opened] at member
      | true =>
          refine ⟨rfl, ?_⟩
          by_cases empty : buffer.pending = []
          · simp [stop, drain, Framer.flush, plain, empty, opened]
          · simp [stop, drain, Framer.flush, plain, empty] at member
    · rw [idle] at member
      cases member
  cases event with
  | append fragment =>
      rw [perform, messages_append] at member
      exact absurd member (nil_notMem_push plain fragment buffer.pending)
  | start => cases member
  | stop | expire | pass | wait => exact ofNeutral rfl

/-- Without an open request there is no empty message. -/
theorem nil_notMem_of_answered (plain : framer.pattern? = none) {events : List Event}
    (goesOn : .start ∉ events) {buffer : TimedBuffer} (answered : buffer.awaiting = false) :
    [] ∉ (performAll framer events buffer).1 := by
  induction events generalizing buffer with
  | nil => exact List.not_mem_nil
  | cons event events inductionHypothesis =>
      rw [List.mem_cons, not_or] at goesOn
      intro member
      rw [performAll_cons] at member
      rcases List.mem_append.mp member with first | later
      · have opened := (messages_of_nil_mem plain first).1
        rw [answered] at opened
        cases opened
      · have stillAnswered : (buffer.perform framer event).2.awaiting = false := by
          rw [awaiting_perform (Ne.symm goesOn.1), answered, Bool.false_and]
        exact inductionHypothesis goesOn.2 stillAnswered later

/-- No empty message comes after another message. -/
theorem nil_notMem_tail (plain : framer.pattern? = none) {events : List Event}
    (goesOn : .start ∉ events) (buffer : TimedBuffer) :
    [] ∉ (performAll framer events buffer).1.tail := by
  induction events generalizing buffer with
  | nil => exact List.not_mem_nil
  | cons event events inductionHypothesis =>
      rw [List.mem_cons, not_or] at goesOn
      rw [performAll_cons]
      cases first : (buffer.perform framer event).1 with
      | nil => exact inductionHypothesis goesOn.2 _
      | cons message more =>
          have answered : (buffer.perform framer event).2.awaiting = false := by
            rw [awaiting_perform (Ne.symm goesOn.1), first]
            exact Bool.and_false _
          have later := nil_notMem_of_answered plain goesOn.2 answered
          intro member
          rcases List.mem_append.mp member with inside | behind
          · have empty : [] ∈ (buffer.perform framer event).1 := by
              rw [first]
              exact List.mem_cons_of_mem message inside
            have alone := (messages_of_nil_mem plain empty).2
            rw [first] at alone
            cases alone
            cases inside
          · exact later behind

/-- Messages of which none but the first is empty. -/
theorem count_nil_le_of_notMem_tail {messages : List Text} (full : [] ∉ messages.tail) :
    messages.count [] ≤ 1 := by
  cases messages with
  | nil => exact Nat.zero_le 1
  | cons first rest =>
      have none : rest.count [] = 0 := List.count_eq_zero.mpr full
      rw [List.count_cons, none, Nat.zero_add]
      split <;> omega

/-- How an open request stands. -/
theorem open_of_replies_eq_nil {earlier later : List Event} (goesOn : .start ∉ later)
    (silent : replies framer earlier later = []) :
    (after framer (earlier ++ .start :: later)).awaiting = true ∧
      (after framer (earlier ++ .start :: later)).due? .master =
        some (elapsed earlier + framer.masterTimeout) := by
  have opened : ((after framer earlier).start framer).awaiting = true := rfl
  have due : ((after framer earlier).start framer).due? .master =
      some (elapsed earlier + framer.masterTimeout) := by
    rw [← now_after framer earlier]
    rfl
  rw [after_request]
  constructor
  · rw [awaiting_performAll goesOn, opened]
    simpa [replies] using silent
  · exact due?_master_performAll goesOn opened due silent

theorem replies_append (framer : Framer) (earlier later more : List Event) :
    replies framer earlier (later ++ more) = replies framer earlier later ++
      (performAll framer more (after framer (earlier ++ .start :: later))).1 := by
  rw [replies, performAll_append, after_request]
  rfl

theorem elapsed_append (earlier later : List Event) :
    elapsed (earlier ++ later) = elapsed earlier + elapsed later := by
  induction earlier with
  | nil => simp [elapsed]
  | cons event earlier inductionHypothesis =>
      simp [elapsed, inductionHypothesis, Nat.add_assoc]

/-- An event that answers every open request answers this one, if nothing else did. -/
theorem replies_ne_nil {earlier between rest : List Event} {event : Event}
    (goesOn : .start ∉ between ++ event :: rest)
    (answers : ∀ buffer : TimedBuffer, buffer.awaiting = true →
      buffer.now = elapsed earlier + elapsed between →
      buffer.due? .master = some (elapsed earlier + framer.masterTimeout) →
      (buffer.perform framer event).1 ≠ []) :
    replies framer earlier (between ++ event :: rest) ≠ [] := by
  intro silent
  rw [replies_append, performAll_cons] at silent
  obtain ⟨silentBetween, silentRest⟩ := List.append_eq_nil_iff.mp silent
  have before : .start ∉ between := fun member => goesOn (List.mem_append_left _ member)
  obtain ⟨opened, due⟩ := open_of_replies_eq_nil before silentBetween
  have now : (after framer (earlier ++ .start :: between)).now =
      elapsed earlier + elapsed between := by
    rw [now_after, elapsed_append, elapsed, Event.duration, Nat.zero_add]
  exact answers _ opened now due (List.append_eq_nil_iff.mp silentRest).1

theorem replies_of_stop {earlier later : List Event} (goesOn : .start ∉ later)
    (stopped : .stop ∈ later) : replies framer earlier later ≠ [] := by
  obtain ⟨between, rest, rfl⟩ := List.append_of_mem stopped
  apply replies_ne_nil goesOn
  intro buffer opened _ _
  exact messages_stop_ne_nil opened

theorem replies_of_reaches {earlier later : List Event} (goesOn : .start ∉ later)
    (reaches : Reaches earlier later (elapsed earlier + framer.masterTimeout)) :
    replies framer earlier later ≠ [] := by
  obtain ⟨between, milliseconds, rest, rfl, reached⟩ := reaches
  apply replies_ne_nil goesOn
  intro buffer opened now due
  exact messages_wait_ne_nil opened due (now ▸ reached)

/-- If all time passes in waits, the clock goes beyond the end of a history only in a wait. -/
theorem reaches_of_le_elapsed {earlier later : List Event} {moment : Nat}
    (waits : ∀ milliseconds, .pass milliseconds ∉ later) (ahead : elapsed earlier < moment)
    (reached : moment ≤ elapsed earlier + elapsed later) : Reaches earlier later moment := by
  induction later using List.reverseRecOn with
  | nil =>
      rw [elapsed] at reached
      omega
  | append_singleton later event inductionHypothesis =>
      rw [elapsed_concat] at reached
      have waitsBefore : ∀ milliseconds, .pass milliseconds ∉ later := fun milliseconds member =>
        waits milliseconds (List.mem_append_left _ member)
      have ofIdle (idle : event.duration = 0) : Reaches earlier (later ++ [event]) moment := by
        rw [idle, Nat.add_zero] at reached
        obtain ⟨between, milliseconds, rest, rfl, ends⟩ := inductionHypothesis waitsBefore reached
        exact ⟨between, milliseconds, rest ++ [event], by simp, ends⟩
      cases event with
      | append | start | stop | expire => exact ofIdle rfl
      | pass milliseconds => exact absurd (by simp) (waits milliseconds)
      | wait milliseconds =>
          rw [Event.duration] at reached
          exact ⟨later, milliseconds, [], rfl, by omega⟩

/-- Every request is answered, in the events up to the next one: when the buffer is stopped, or when
the clock, which only waits move on, reaches the moment at which the master timer is due. Without a
pattern at most one answer is empty, and nothing was emitted before it. -/
theorem replies_of_request (framer : Framer) (earlier later : List Event)
    (goesOn : .start ∉ later) :
    (.stop ∈ later → replies framer earlier later ≠ []) ∧
      (Reaches earlier later (elapsed earlier + framer.masterTimeout) →
        replies framer earlier later ≠ []) ∧
      (0 < framer.masterTimeout → (∀ milliseconds, .pass milliseconds ∉ later) →
        elapsed earlier + framer.masterTimeout ≤ elapsed (earlier ++ .start :: later) →
        replies framer earlier later ≠ []) ∧
      (framer.pattern? = none → (replies framer earlier later).count [] ≤ 1 ∧
        ∀ front rest, replies framer earlier later = front ++ [] :: rest → front = []) := by
  refine ⟨replies_of_stop goesOn, replies_of_reaches goesOn, ?_, ?_⟩
  · intro takesTime waits reached
    apply replies_of_reaches goesOn
    rw [elapsed_append, elapsed, Event.duration, Nat.zero_add] at reached
    exact reaches_of_le_elapsed waits (by omega) reached
  · intro plain
    have full := nil_notMem_tail plain goesOn ((after framer earlier).start framer)
    refine ⟨count_nil_le_of_notMem_tail full, ?_⟩
    intro front rest messages
    cases front with
    | nil => rfl
    | cons first front =>
        rw [replies] at messages
        rw [messages] at full
        exact absurd (by simp) full

/-- Terminators alone are no answer, so the request is answered by an empty message when the master
timer is due, and by no other empty message when the buffer is stopped. -/
theorem replies_of_request_terminators :
    let framer : Framer := ⟨"\n", none, 5000, 500⟩
    let earlier : List Event := [.append "x", .wait 10]
    let later : List Event := [.append "\n", .wait 5000, .append "a\nb", .stop]
    .start ∉ later ∧ replies framer earlier later = ["".toList, "a\n".toList, "b".toList] ∧
      replies framer earlier later ≠ [] ∧ (replies framer earlier later).count [] ≤ 1 := by
  intro framer earlier later
  have goesOn : .start ∉ later := by decide
  obtain ⟨stopped, _, _, plain⟩ := replies_of_request framer earlier later goesOn
  exact ⟨goesOn, by decide, stopped (by decide), (plain rfl).1⟩

end CommandLink.TimedBuffer
