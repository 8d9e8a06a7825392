import CommandLink.Proofs.Framing.Requests

/-!
# Timers watch what is open

Pending text is watched by both timers, an open request by the master timer, and where neither is
there no timer runs. So once a wait is over, pending text is younger than both timeouts allow
(`timers_watch`).
-/

namespace CommandLink.TimedBuffer

variable {framer : Framer} {events : List Event}

/-- A request is open exactly if nothing has been emitted since the last one. -/
theorem awaiting_iff_unanswered (framer : Framer) (events : List Event) :
    (after framer events).awaiting = true ↔ Unanswered framer events := by
  constructor
  · intro opened
    induction events using List.reverseRecOn with
    | nil => cases opened
    | append_singleton events event inductionHypothesis =>
        by_cases request : event = .start
        · subst request
          exact ⟨events, [], rfl, List.not_mem_nil, rfl⟩
        · rw [after_concat, awaiting_perform request, Bool.and_eq_true, List.isEmpty_iff] at opened
          obtain ⟨earlier, later, rfl, goesOn, silent⟩ := inductionHypothesis opened.1
          refine ⟨earlier, later ++ [event], by simp, ?_, ?_⟩
          · simpa [goesOn] using Ne.symm request
          · rw [replies_append, silent, performAll_cons, opened.2]
            rfl
  · rintro ⟨earlier, later, rfl, goesOn, silent⟩
    exact (open_of_replies_eq_nil goesOn silent).1

/-- How pending text is watched: by a master timer that is due when the text has been pending for
its time, or before, and by a data timer that began with the last fragment. -/
structure TextWatched (framer : Framer) (events : List Event) (since last : Nat) : Prop where
  pendingSince : PendingSince framer events since
  lastDelivery : LastDelivery events last
  ordered : since ≤ last
  masterDue : ∃ moment, (after framer events).due? .master = some moment ∧
    moment ≤ since + framer.masterTimeout
  dataDue : (after framer events).due? .data = some (last + framer.dataTimeout)

/-- How timers stand. -/
structure Watched (framer : Framer) (events : List Event) : Prop where
  text : (after framer events).pending ≠ [] → ∃ since last, TextWatched framer events since last
  request : (after framer events).awaiting = true → ((after framer events).due? .master).isSome
  calm : (after framer events).pending = [] → (after framer events).awaiting = false →
    (after framer events).armed = false
  /-- The master timer never runs for longer than its time. -/
  bounded : ∀ moment, (after framer events).due? .master = some moment →
    moment ≤ elapsed events + framer.masterTimeout

theorem watched_nil (framer : Framer) : Watched framer [] where
  text filled := absurd rfl filled
  request opened := by cases opened
  calm _ _ := rfl
  bounded _ due := by cases due

/-- After a stop there is nothing to watch, and no timer runs. -/
theorem watched_of_stopped {buffer : TimedBuffer} {now : Nat}
    (stopped : after framer events = { (buffer.stop framer).2 with now := now }) :
    Watched framer events where
  text filled := absurd (by rw [stopped]; rfl) filled
  request opened := by rw [stopped] at opened; cases opened
  calm _ _ := by rw [stopped]; rfl
  bounded _ due := by rw [stopped] at due; cases due

theorem deliveries_concat_neutral {event : Event} (neutral : event.isNeutral = true) :
    deliveries 0 (events ++ [event]) = deliveries 0 events := by
  rw [deliveries_append]
  cases event with
  | append | start => cases neutral
  | stop | expire | pass | wait => exact List.append_nil _

/-- While only the clock goes on, everything is watched as before. -/
theorem Watched.idle (watched : Watched framer events) {event : Event}
    (neutral : event.isNeutral = true)
    (idle : after framer (events ++ [event]) =
      { after framer events with now := (after framer events).now + event.duration }) :
    Watched framer (events ++ [event]) where
  text filled := by
    have filledBefore : (after framer events).pending ≠ [] := by
      rw [idle] at filled
      exact filled
    obtain ⟨since, last, text⟩ := watched.text filledBefore
    refine ⟨since, last, .goesOn text.pendingSince filled, ?_, text.ordered, ?_, ?_⟩
    · obtain ⟨fragment, lastOne⟩ := text.lastDelivery
      exact ⟨fragment, by rw [deliveries_concat_neutral neutral, lastOne]⟩
    · rw [idle]
      exact text.masterDue
    · rw [idle]
      exact text.dataDue
  request opened := by
    rw [idle] at opened ⊢
    exact watched.request opened
  calm empty answered := by
    rw [idle] at empty answered ⊢
    exact watched.calm empty answered
  bounded moment due := by
    rw [idle] at due
    have bound := watched.bounded moment due
    rw [elapsed_concat]
    omega

theorem Watched.neutral (watched : Watched framer events) {event : Event}
    (neutral : event.isNeutral = true) : Watched framer (events ++ [event]) := by
  have next : after framer (events ++ [event]) =
      ((after framer events).perform framer event).2 := after_concat events event
  rcases perform_neutral_cases framer neutral (after framer events) with stopped | idle
  · rw [stopped] at next
    exact watched_of_stopped next
  · rw [idle] at next
    exact watched.idle neutral next

/-- A request is watched from its start. -/
theorem watched_start (framer : Framer) (events : List Event) :
    Watched framer (events ++ [.start]) := by
  have next : after framer (events ++ [.start]) = (after framer events).start framer :=
    after_concat events .start
  refine ⟨?_, ?_, ?_, ?_⟩
  · intro filled
    rw [next] at filled
    exact absurd rfl filled
  · intro _
    rw [next]
    rfl
  · intro _ answered
    rw [next] at answered
    cases answered
  · intro moment due
    rw [next] at due
    obtain rfl : (after framer events).now + framer.masterTimeout = moment := Option.some.inj due
    rw [now_after, elapsed_concat]
    exact Nat.le_refl _

/-- A fragment that leaves nothing pending stops the timers, unless a request stays open. -/
theorem append_of_complete {buffer : TimedBuffer} {fragment : Text}
    (complete : (framer.push fragment buffer.pending).2 = []) :
    (buffer.append framer fragment).2.pending = [] ∧
      ((buffer.append framer fragment).2.awaiting = true →
        buffer.awaiting = true ∧
          (buffer.append framer fragment).2.due? .master = buffer.due? .master) ∧
      ((buffer.append framer fragment).2.awaiting = false →
        (buffer.append framer fragment).2.armed = false) := by
  refine ⟨by rw [pending_append, complete], ?_, ?_⟩
  · intro opened
    rw [awaiting_append, Bool.and_eq_true, List.isEmpty_iff] at opened
    refine ⟨opened.1, ?_⟩
    simp [append, complete, opened, due?, timer?]
  · exact armed_append_of_complete framer fragment buffer complete

theorem Watched.append_of_complete (watched : Watched framer events) {fragment : Text}
    (complete : (framer.push fragment (after framer events).pending).2 = []) :
    Watched framer (events ++ [.append fragment]) := by
  obtain ⟨empty, stillOpen, closed⟩ := TimedBuffer.append_of_complete complete
  rw [← after_concat_append] at empty stillOpen closed
  refine ⟨fun filled => absurd empty filled, ?_, fun _ => closed, ?_⟩
  · intro opened
    obtain ⟨openedBefore, due⟩ := stillOpen opened
    rw [due]
    exact watched.request openedBefore
  · intro moment due
    cases opened : (after framer (events ++ [.append fragment])).awaiting with
    | true =>
        rw [(stillOpen opened).2] at due
        rw [elapsed_concat]
        exact watched.bounded moment due
    | false =>
        have stopped := closed opened
        rw [armed, Bool.or_eq_false_iff, Option.isSome_eq_false_iff, Option.isNone_iff_eq_none]
          at stopped
        rw [due?, timer?, stopped.1] at due
        cases due

theorem Watched.append_of_filled (watched : Watched framer events) {fragment : Text}
    (filled : (framer.push fragment (after framer events).pending).2 ≠ []) :
    Watched framer (events ++ [.append fragment]) := by
  obtain ⟨master, data⟩ := due?_append filled
  rw [← after_concat_append, now_after] at master data
  rw [← pending_concat_append] at filled
  have lastDelivery : LastDelivery (events ++ [.append fragment]) (elapsed events) :=
    ⟨fragment, by rw [deliveries_concat_append, List.getLast?_concat]⟩
  have bounded : ((after framer events).due? .master).getD (elapsed events + framer.masterTimeout) ≤
      elapsed events + framer.masterTimeout := by
    cases due : (after framer events).due? .master with
    | none => exact Nat.le_refl _
    | some moment => exact watched.bounded moment due
  refine ⟨fun _ => ?_, ?_, ?_, ?_⟩
  · by_cases idle : (after framer events).pending = []
    · exact ⟨elapsed events, elapsed events, .begins idle filled, lastDelivery, Nat.le_refl _,
        ⟨_, master, bounded⟩, data⟩
    · obtain ⟨since, last, text⟩ := watched.text idle
      obtain ⟨moment, due, soon⟩ := text.masterDue
      rw [due, Option.getD_some] at master
      exact ⟨since, elapsed events, .goesOn text.pendingSince filled, lastDelivery,
        text.pendingSince.le_elapsed, ⟨moment, master, soon⟩, data⟩
  · intro _
    rw [master]
    rfl
  · intro empty
    exact absurd empty filled
  · intro moment due
    obtain rfl := Option.some.inj (master.symm.trans due)
    rw [elapsed_concat]
    exact bounded

/-- Timers stand so after every history. -/
theorem watched (framer : Framer) (events : List Event) : Watched framer events := by
  induction events using List.reverseRecOn with
  | nil => exact watched_nil framer
  | append_singleton events event inductionHypothesis =>
      cases event with
      | append fragment =>
          by_cases complete : (framer.push fragment (after framer events).pending).2 = []
          · exact inductionHypothesis.append_of_complete complete
          · exact inductionHypothesis.append_of_filled complete
      | start => exact watched_start framer events
      | stop | expire | pass | wait => exact inductionHypothesis.neutral rfl

/-- A timer that runs on after a wait is not due yet. -/
theorem lt_due_of_wait {buffer : TimedBuffer} {kind : TimerKind} {milliseconds moment : Nat}
    (due : (buffer.wait framer milliseconds).2.due? kind = some moment) :
    buffer.now + milliseconds < moment := by
  rcases wait_cases framer milliseconds buffer with ⟨_, _, _, _, fired⟩ | ⟨early, idle⟩
  · rw [fired] at due
    cases kind <;> cases due
  · rw [idle] at due
    have runs : buffer.due? kind = some moment := due
    obtain ⟨first, timer, found, soon⟩ := exists_first?_le runs
    have later := early first timer found
    omega

/-- In every state of every run, with any framer: while text is pending both timers run, while a
request is open the master timer runs, and otherwise none does. So after a wait the last fragment is
younger than the time of the data timer, and the text has been pending, since the buffer was last
empty, for less than the time of the master timer. -/
theorem timers_watch (framer : Framer) (events : List Event) :
    ((after framer events).pending ≠ [] →
      (after framer events).master?.isSome ∧ (after framer events).data?.isSome) ∧
    (Unanswered framer events → (after framer events).master?.isSome) ∧
    ((after framer events).pending = [] → ¬ Unanswered framer events →
      (after framer events).master? = none ∧ (after framer events).data? = none) ∧
    ∀ earlier milliseconds, events = earlier ++ [.wait milliseconds] →
      (after framer events).pending ≠ [] →
      ∃ since last, PendingSince framer events since ∧ LastDelivery events last ∧ since ≤ last ∧
        elapsed events < last + framer.dataTimeout ∧
        elapsed events < since + framer.masterTimeout := by
  have stands := watched framer events
  refine ⟨?_, ?_, ?_, ?_⟩
  · intro filled
    obtain ⟨since, last, text⟩ := stands.text filled
    obtain ⟨moment, masterDue, _⟩ := text.masterDue
    have master := congrArg Option.isSome masterDue
    have data := congrArg Option.isSome text.dataDue
    exact ⟨by simpa [due?, timer?] using master, by simpa [due?, timer?] using data⟩
  · intro unanswered
    have master := stands.request ((awaiting_iff_unanswered framer events).mpr unanswered)
    simpa [due?, timer?] using master
  · intro empty answered
    have closed : (after framer events).awaiting = false :=
      Bool.eq_false_iff.mpr (mt (awaiting_iff_unanswered framer events).mp answered)
    simpa [armed] using stands.calm empty closed
  · rintro earlier milliseconds rfl filled
    obtain ⟨since, last, text⟩ := stands.text filled
    obtain ⟨moment, masterDue, soon⟩ := text.masterDue
    have waited : elapsed (earlier ++ [.wait milliseconds]) =
        (after framer earlier).now + milliseconds := by
      rw [elapsed_concat, now_after, Event.duration]
    have dataDue := text.dataDue
    rw [after_concat, perform] at masterDue dataDue
    have masterLater := lt_due_of_wait masterDue
    have dataLater := lt_due_of_wait dataDue
    refine ⟨since, last, text.pendingSince, text.lastDelivery, text.ordered, ?_, ?_⟩ <;> omega

end CommandLink.TimedBuffer
