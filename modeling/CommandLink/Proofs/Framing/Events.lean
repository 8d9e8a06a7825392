import CommandLink.Proofs.Framing.Timers

/-!
# Histories of timed buffers

What can happen to a timed buffer, in any order: fragments, requests, stops, time, and the ends of
timer tasks, among them tasks whose timer was stopped or started anew long ago. All but fragments
and requests emit what is pending or leave it (`flatten_perform_append_pending`), and a timer that
runs no more never runs again (`not_isRunning_after`), so that the end of its task changes nothing.
-/

namespace CommandLink.TimedBuffer

/-- Something that happens to a timed buffer. -/
inductive Event where
  | append (fragment : Text)
  | start
  | stop
  /-- The task of a timer comes to its end. The timer need not be running any more. -/
  | expire (kind : TimerKind) (token : Nat)
  /-- Time passes, and no task comes to its end in it. -/
  | pass (milliseconds : Nat)
  /-- Time passes, and the tasks of the timers that run end when these are due. -/
  | wait (milliseconds : Nat)
deriving DecidableEq, Repr

/-- An event that neither brings text nor makes the buffer forget any. -/
def Event.isNeutral : Event → Bool
  | .append _ | .start => false
  | .stop | .expire _ _ | .pass _ | .wait _ => true

/-- The messages that an event makes a buffer emit, and the buffer after it. -/
def perform (framer : Framer) (event : Event) (buffer : TimedBuffer) : List Text × TimedBuffer :=
  match event with
  | .append fragment => buffer.append framer fragment
  | .start => ([], buffer.start framer)
  | .stop => buffer.stop framer
  | .expire kind token => buffer.expire framer kind token
  | .pass milliseconds => ([], { buffer with now := buffer.now + milliseconds })
  | .wait milliseconds => buffer.wait framer milliseconds

/-- All that comes of events one after another. -/
def performAll (framer : Framer) : List Event → TimedBuffer → List Text × TimedBuffer
  | [], buffer => ([], buffer)
  | event :: rest, buffer =>
      let (messages, buffer) := buffer.perform framer event
      let (later, buffer) := performAll framer rest buffer
      (messages ++ later, buffer)

/-- A fresh buffer after a history. -/
def after (framer : Framer) (events : List Event) : TimedBuffer :=
  (performAll framer events {}).2

/-- What a fresh buffer has emitted after a history. -/
def emitted (framer : Framer) (events : List Event) : List Text :=
  (performAll framer events {}).1

theorem performAll_append (framer : Framer) (earlier later : List Event) (buffer : TimedBuffer) :
    performAll framer (earlier ++ later) buffer =
      let first := performAll framer earlier buffer
      let second := performAll framer later first.2
      (first.1 ++ second.1, second.2) := by
  induction earlier generalizing buffer with
  | nil => simp [performAll]
  | cons event earlier inductionHypothesis =>
      simp [performAll, inductionHypothesis, List.append_assoc]

variable {framer : Framer}

@[simp] theorem after_nil : after framer [] = {} :=
  rfl

theorem after_append (earlier later : List Event) :
    after framer (earlier ++ later) = (performAll framer later (after framer earlier)).2 := by
  rw [after, performAll_append]
  rfl

theorem after_concat (events : List Event) (event : Event) :
    after framer (events ++ [event]) = ((after framer events).perform framer event).2 := by
  rw [after_append]
  rfl

theorem emitted_concat (events : List Event) (event : Event) :
    emitted framer (events ++ [event]) =
      emitted framer events ++ ((after framer events).perform framer event).1 := by
  rw [emitted, performAll_append]
  simp [performAll, emitted, after]

/-- A timer that comes due first stops the buffer when it does. -/
theorem fire_eq_stop {buffer : TimedBuffer} {kind : TimerKind} {timer : Timer}
    (first : buffer.first? = some (kind, timer)) :
    buffer.fire framer kind timer =
      { buffer with now := max buffer.now timer.due }.stop framer := by
  have found := timer?_of_first? first
  rw [fire, expire, if_pos]
  cases kind <;> simp_all [timer?]

/-- What waiting comes to: a timer that is due in that time stops the buffer, or only the clock goes
on. -/
theorem wait_cases (framer : Framer) (milliseconds : Nat) (buffer : TimedBuffer) :
    (∃ kind timer, buffer.first? = some (kind, timer) ∧ timer.due ≤ buffer.now + milliseconds ∧
      buffer.wait framer milliseconds =
        ((buffer.stop framer).1,
          { (buffer.stop framer).2 with now := buffer.now + milliseconds })) ∨
    ((∀ kind timer, buffer.first? = some (kind, timer) → buffer.now + milliseconds < timer.due) ∧
      buffer.wait framer milliseconds =
        ([], { buffer with now := buffer.now + milliseconds })) := by
  unfold wait
  cases first : buffer.first? with
  | none => exact .inr ⟨fun _ _ found => (Option.some_ne_none _ found.symm).elim, rfl⟩
  | some earliest =>
      obtain ⟨kind, timer⟩ := earliest
      by_cases due : timer.due ≤ buffer.now + milliseconds
      · refine .inl ⟨kind, timer, rfl, due, ?_⟩
        simp only [due, if_true, fire_eq_stop first]
        rfl
      · refine .inr ⟨?_, by simp only [due, if_false]⟩
        rintro _ _ ⟨⟩
        exact Nat.lt_of_not_le due

/-- Without a pattern, stopping emits what is pending and no other text. -/
theorem flatten_messages_stop (plain : framer.pattern? = none) (buffer : TimedBuffer) :
    (buffer.stop framer).1.flatten = buffer.pending := by
  simp only [stop, drain, Framer.flush, plain, Option.bind_none, Option.none_or, pending_disarm]
  by_cases empty : buffer.pending = []
  · cases awaiting : buffer.awaiting <;> simp [empty, awaiting]
  · simp [empty]

theorem pending_stop (framer : Framer) (buffer : TimedBuffer) :
    (buffer.stop framer).2.pending = [] :=
  rfl

theorem pending_start (framer : Framer) (buffer : TimedBuffer) :
    (buffer.start framer).pending = [] :=
  rfl

/-- An event that is no fragment and no request emits what is pending, or leaves it where it is. -/
theorem flatten_perform_append_pending (plain : framer.pattern? = none) {event : Event}
    (neutral : event.isNeutral = true) (buffer : TimedBuffer) :
    (buffer.perform framer event).1.flatten ++ (buffer.perform framer event).2.pending =
      buffer.pending := by
  have stopped : (buffer.stop framer).1.flatten ++ (buffer.stop framer).2.pending =
      buffer.pending := by
    rw [flatten_messages_stop plain, pending_stop, List.append_nil]
  cases event with
  | append | start => cases neutral
  | stop => exact stopped
  | expire kind token =>
      simp only [perform, expire]
      split
      · exact stopped
      · rfl
  | pass milliseconds => rfl
  | wait milliseconds =>
      rw [perform]
      obtain ⟨kind, timer, _, _, fired⟩ | ⟨_, idle⟩ := wait_cases framer milliseconds buffer
      · rw [fired]
        exact stopped
      · rw [idle]
        rfl

theorem pending_perform_suffix (plain : framer.pattern? = none) {event : Event}
    (neutral : event.isNeutral = true) (buffer : TimedBuffer) :
    (buffer.perform framer event).2.pending <:+ buffer.pending :=
  ⟨_, flatten_perform_append_pending plain neutral buffer⟩

/-- Whether the timer with a token is the one that runs. -/
def IsRunning (buffer : TimedBuffer) (kind : TimerKind) (token : Nat) : Prop :=
  (buffer.timer? kind).map Timer.token = some token
deriving Decidable

/-- How timers go on: one that runs later ran before, or it was started in between and its token
says so. -/
structure TokenStep (before next : TimedBuffer) : Prop where
  grows : before.nextToken ≤ next.nextToken
  known : ∀ kind token, next.IsRunning kind token →
    before.IsRunning kind token ∨ before.nextToken ≤ token ∧ token < next.nextToken

namespace TokenStep

variable {before middle next : TimedBuffer}

theorem of_same_timers (timers : ∀ kind, next.timer? kind = before.timer? kind)
    (tokens : next.nextToken = before.nextToken) : TokenStep before next where
  grows := Nat.le_of_eq tokens.symm
  known kind token running := by
    left
    rwa [IsRunning, ← timers kind]

theorem trans (first : TokenStep before middle) (second : TokenStep middle next) :
    TokenStep before next where
  grows := Nat.le_trans first.grows second.grows
  known kind token running := by
    have growsFirst := first.grows
    have growsSecond := second.grows
    rcases second.known kind token running with ran | ⟨low, high⟩
    · rcases first.known kind token ran with ran | ⟨low, high⟩
      · exact .inl ran
      · exact .inr ⟨low, by omega⟩
    · exact .inr ⟨by omega, high⟩

theorem disarm (buffer : TimedBuffer) : TokenStep buffer buffer.disarm where
  grows := Nat.le_refl _
  known kind token running := by
    cases kind <;> simp [IsRunning, timer?, TimedBuffer.disarm] at running

theorem arm (framer : Framer) (armed : TimerKind) (buffer : TimedBuffer) :
    TokenStep buffer (buffer.arm framer armed) where
  grows := by cases armed <;> exact Nat.le_succ _
  known kind token running := by
    cases armed <;> cases kind
    case master.master | data.data =>
      right
      simp only [IsRunning, timer?, TimedBuffer.arm, Option.map_some,
        Option.some.injEq] at running ⊢
      omega
    case master.data | data.master => exact .inl running

theorem stop (framer : Framer) (buffer : TimedBuffer) : TokenStep buffer (buffer.stop framer).2 :=
  (disarm buffer).trans (.of_same_timers (fun kind => by cases kind <;> rfl) rfl)

theorem append (framer : Framer) (fragment : Text) (buffer : TimedBuffer) :
    TokenStep buffer (buffer.append framer fragment).2 := by
  simp only [TimedBuffer.append]
  generalize framer.push fragment buffer.pending = pushed
  have text : TokenStep buffer
      { buffer with pending := pushed.2, awaiting := buffer.awaiting && pushed.1.isEmpty } :=
    .of_same_timers (fun kind => by cases kind <;> rfl) rfl
  split
  · split
    · exact text
    · exact text.trans (disarm _)
  · split
    · exact (text.trans (arm framer .master _)).trans (arm framer .data _)
    · exact text.trans (arm framer .data _)

theorem perform (framer : Framer) (event : Event) (buffer : TimedBuffer) :
    TokenStep buffer (buffer.perform framer event).2 := by
  cases event with
  | append fragment => exact append framer fragment buffer
  | start =>
      have text : TokenStep buffer.disarm { buffer.disarm with pending := [], awaiting := true } :=
        .of_same_timers (fun kind => by cases kind <;> rfl) rfl
      exact ((disarm buffer).trans text).trans (arm framer .master _)
  | stop => exact stop framer buffer
  | expire kind token =>
      simp only [TimedBuffer.perform, expire]
      split
      · exact stop framer buffer
      · exact .of_same_timers (fun _ => rfl) rfl
  | pass milliseconds => exact .of_same_timers (fun kind => by cases kind <;> rfl) rfl
  | wait milliseconds =>
      rw [TimedBuffer.perform]
      obtain ⟨kind, timer, _, _, fired⟩ | ⟨_, idle⟩ := wait_cases framer milliseconds buffer
      · rw [fired]
        exact (stop framer buffer).trans (.of_same_timers (fun kind => by cases kind <;> rfl) rfl)
      · rw [idle]
        exact .of_same_timers (fun kind => by cases kind <;> rfl) rfl

theorem performAll (framer : Framer) (events : List Event) (buffer : TimedBuffer) :
    TokenStep buffer (performAll framer events buffer).2 := by
  induction events generalizing buffer with
  | nil => exact .of_same_timers (fun _ => rfl) rfl
  | cons event events inductionHypothesis =>
      exact (perform framer event buffer).trans (inductionHypothesis _)

end TokenStep

/-- The token of a running timer has been given out. -/
theorem lt_nextToken_after {events : List Event} {kind : TimerKind} {token : Nat}
    (running : (after framer events).IsRunning kind token) :
    token < (after framer events).nextToken := by
  have step : TokenStep {} (after framer events) := .performAll framer events {}
  rcases step.known kind token running with ran | ⟨_, high⟩
  · cases kind <;> simp [IsRunning, timer?] at ran
  · exact high

/-- A timer that was stopped or started anew never runs again under its old token. -/
theorem not_isRunning_after {earlier middle later : List Event} {kind : TimerKind} {token : Nat}
    (ran : (after framer earlier).IsRunning kind token)
    (gone : ¬ (after framer (earlier ++ middle)).IsRunning kind token) :
    ¬ (after framer (earlier ++ middle ++ later)).IsRunning kind token := by
  intro running
  have old := lt_nextToken_after ran
  have first : TokenStep (after framer earlier) (after framer (earlier ++ middle)) := by
    rw [after_append]
    exact .performAll framer middle _
  have second : TokenStep (after framer (earlier ++ middle))
      (after framer (earlier ++ middle ++ later)) := by
    rw [after_append (earlier ++ middle)]
    exact .performAll framer later _
  have grows := first.grows
  rcases second.known kind token running with still | ⟨low, _⟩
  · exact gone still
  · omega

/-- The end of a task whose timer does not run changes nothing. -/
theorem expire_of_not_isRunning {buffer : TimedBuffer} {kind : TimerKind} {token : Nat}
    (gone : ¬ buffer.IsRunning kind token) : buffer.expire framer kind token = ([], buffer) :=
  if_neg gone

end CommandLink.TimedBuffer
