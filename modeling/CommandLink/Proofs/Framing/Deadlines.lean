import CommandLink.Proofs.Framing.Arrivals
import CommandLink.Proofs.Framing.Conservation

/-!
# When timers flush

Fragments and pauses on the virtual clock, without requests and stops. A timer that flushes does so
after a silence, or because text has been pending without a break since the master timer started
(`wait_emits_after_timeout`). The text may be younger than that: the master timer runs on when a
fragment completes a message and begins the next (`overlapping_flushed_early`).
-/

namespace CommandLink

namespace Framer

variable {framer : Framer}

/-- What arrives either goes on with the pending text, or completes it and may begin another. -/
theorem push_cases (plain : framer.pattern? = none) {pending : Text} (filled : pending ≠ [])
    (inside : ∀ c ∈ pending, framer.ends c = false) (fragment : Text) :
    framer.push fragment pending = ([], pending ++ fragment) ∨
      (framer.push fragment pending).1 ≠ [] ∧ (framer.push fragment pending).2 <:+ fragment := by
  have messages := push_messages plain fragment pending
  have kept := push_pending plain fragment pending
  cases found : fragment.find? framer.ends with
  | none =>
      left
      have goesOn : ∀ c ∈ pending ++ fragment, framer.ends c = false := by
        have without : ∀ c ∈ fragment, framer.ends c = false := by simpa using found
        simpa [or_imp, forall_and] using And.intro inside without
      have single : framer.pieces (pending ++ fragment) = [] ++ [pending ++ fragment] :=
        framer.pieces_eq_singleton goesOn
      rw [framer.finished_eq_of_pieces single] at messages
      rw [framer.tail_eq_of_pieces single] at kept
      exact Prod.ext (List.forall₂_nil_left_iff.mp messages) kept
  | some c =>
      right
      obtain ⟨isEnd, front, rest, rfl, without⟩ := List.find?_eq_some_iff_append.mp found
      have first : ∀ d ∈ pending ++ front, framer.ends d = false := by
        have without : ∀ d ∈ front, framer.ends d = false := by simpa using without
        simpa [or_imp, forall_and] using And.intro inside without
      have cut : framer.pieces (pending ++ (front ++ c :: rest)) =
          (pending ++ front) :: framer.pieces rest := by
        rw [← List.append_assoc, pieces, List.splitOnP_append_cons _ _ isEnd,
          List.splitOnP_eq_singleton first]
        rfl
      rw [framer.pieces_eq_append_tail rest, ← List.cons_append] at cut
      constructor
      · intro noMessage
        rw [noMessage, framer.finished_eq_of_pieces cut] at messages
        have finishedPiece := List.forall₂_nil_right_iff.mp messages
        simp [filled] at finishedPiece
      · rw [kept, framer.tail_eq_of_pieces cut]
        exact (framer.tail_suffix rest).trans ⟨front ++ [c], by simp⟩

end Framer

namespace TimedBuffer

/-- Fragments and pauses. -/
def Event.isTraffic : Event → Bool
  | .append _ | .wait _ => true
  | .start | .stop | .expire _ _ | .pass _ => false

/-- Text has been pending without a break since a fragment that arrived at a moment. -/
inductive PendingSince (framer : Framer) : List Event → Nat → Prop where
  | begins {events : List Event} {fragment : Text} (idle : (after framer events).pending = [])
      (filled : (after framer (events ++ [.append fragment])).pending ≠ []) :
      PendingSince framer (events ++ [.append fragment]) (elapsed events)
  | goesOn {events : List Event} {moment : Nat} {event : Event}
      (earlier : PendingSince framer events moment)
      (filled : (after framer (events ++ [event])).pending ≠ []) :
      PendingSince framer (events ++ [event]) moment

/-- Whoever waits from now on gets a text exactly if he waits until a moment, and no other text. -/
def FlushesAt (framer : Framer) (buffer : TimedBuffer) (moment : Nat) (text : Text) : Prop :=
  buffer.now ≤ moment ∧ ∀ milliseconds, (buffer.wait framer milliseconds).1 =
    if buffer.now + milliseconds < moment then [] else [text]

variable {framer : Framer}

theorem PendingSince.le_elapsed {events : List Event} {moment : Nat}
    (since : PendingSince framer events moment) : moment ≤ elapsed events := by
  induction since with
  | begins => rw [elapsed_concat]; exact Nat.le_add_right _ _
  | goesOn earlier filled inductionHypothesis =>
      rw [elapsed_concat]
      exact Nat.le_add_right_of_le inductionHypothesis

theorem PendingSince.filled {events : List Event} {moment : Nat}
    (since : PendingSince framer events moment) : (after framer events).pending ≠ [] := by
  cases since <;> assumption

/-- What is pending holds no terminator. -/
theorem not_ends_of_mem_pending (plain : framer.pattern? = none) (events : List Event) :
    ∀ c ∈ (after framer events).pending, framer.ends c = false := by
  induction events using List.reverseRecOn with
  | nil => simp
  | append_singleton events event inductionHypothesis =>
      have kept (neutral : event.isNeutral = true) :
          ∀ c ∈ ((after framer events).perform framer event).2.pending, framer.ends c = false :=
        fun c member =>
          inductionHypothesis c ((pending_perform_suffix plain neutral _).subset member)
      rw [after_concat]
      cases event with
      | append fragment =>
          rw [perform, pending_append, Framer.push_pending plain]
          exact framer.not_ends_of_mem_tail
      | start => simp [perform, pending_start]
      | stop | expire | pass | wait => exact kept rfl

/-- When a timer is due, if it runs. -/
def due? (buffer : TimedBuffer) (kind : TimerKind) : Option Nat :=
  (buffer.timer? kind).map Timer.due

/-- While text is pending after a fragment, the master timer goes on as it was, or starts if it did
not run, and the data timer starts anew. -/
theorem due?_append {buffer : TimedBuffer} {fragment : Text}
    (filled : (framer.push fragment buffer.pending).2 ≠ []) :
    (buffer.append framer fragment).2.due? .master =
        some ((buffer.due? .master).getD (buffer.now + framer.masterTimeout)) ∧
      (buffer.append framer fragment).2.due? .data = some (buffer.now + framer.dataTimeout) := by
  simp only [append, List.isEmpty_iff, filled, if_false]
  cases running : buffer.master? <;> simp [running, due?, timer?, arm]

/-- Whoever comes first of two timers is due at the earlier moment. -/
theorem exists_first?_of_due? {buffer : TimedBuffer} {master data : Nat}
    (masterDue : buffer.due? .master = some master) (dataDue : buffer.due? .data = some data) :
    ∃ kind timer, buffer.first? = some (kind, timer) ∧ timer.due = min master data := by
  obtain ⟨masterTimer, masterRuns, rfl⟩ := Option.map_eq_some_iff.mp masterDue
  obtain ⟨dataTimer, dataRuns, rfl⟩ := Option.map_eq_some_iff.mp dataDue
  simp only [timer?] at masterRuns dataRuns
  simp only [first?, masterRuns, dataRuns]
  by_cases earlier : masterTimer.due ≤ dataTimer.due
  · exact ⟨.master, masterTimer, by rw [if_pos earlier], (Nat.min_eq_left earlier).symm⟩
  · have later : dataTimer.due ≤ masterTimer.due := Nat.le_of_not_le earlier
    exact ⟨.data, dataTimer, by rw [if_neg earlier], (Nat.min_eq_right later).symm⟩

/-- Nothing is pending, no timer runs, and no request is open. -/
structure Quiet (buffer : TimedBuffer) : Prop where
  pending : buffer.pending = []
  calm : buffer.first? = none
  answered : buffer.awaiting = false

theorem Quiet.due?_master {buffer : TimedBuffer} (quiet : Quiet buffer) :
    buffer.due? .master = none := by
  have calm := quiet.calm
  unfold first? at calm
  split at calm
  case h_1 | h_2 | h_3 => cases calm
  case h_4 stopped _ => rw [due?, timer?, stopped, Option.map_none]

/-- A fragment that arrived at a moment completed a message that was pending before. -/
def CompletedAt (framer : Framer) (events : List Event) (moment : Nat) : Prop :=
  ∃ earlier fragment later, events = earlier ++ .append fragment :: later ∧
    elapsed earlier = moment ∧ (after framer earlier).pending ≠ [] ∧
    ((after framer earlier).append framer fragment).1 ≠ []

theorem CompletedAt.concat {events : List Event} {moment : Nat}
    (completed : CompletedAt framer events moment) (event : Event) :
    CompletedAt framer (events ++ [event]) moment := by
  obtain ⟨earlier, fragment, later, rfl, rest⟩ := completed
  exact ⟨earlier, fragment, later ++ [event], by simp, rest⟩

/-- How a history of fragments and pauses stands while text is pending. -/
structure Loaded (framer : Framer) (events : List Event) (since first last : Nat) : Prop where
  answered : (after framer events).awaiting = false
  pendingSince : PendingSince framer events since
  began : Began events (after framer events).pending first
  /-- The text is as old as the master timer, or a fragment that completed a message began it. -/
  origin : first = since ∨ since ≤ first ∧ CompletedAt framer events first
  lastDelivery : LastDelivery events last
  masterDue : (after framer events).due? .master = some (since + framer.masterTimeout)
  dataDue : (after framer events).due? .data = some (last + framer.dataTimeout)
  inTime : elapsed events ≤ min (since + framer.masterTimeout) (last + framer.dataTimeout)

theorem after_concat_append (framer : Framer) (events : List Event) (fragment : Text) :
    after framer (events ++ [.append fragment]) =
      ((after framer events).append framer fragment).2 :=
  after_concat events (.append fragment)

theorem pending_concat_append (framer : Framer) (events : List Event) (fragment : Text) :
    (after framer (events ++ [.append fragment])).pending =
      (framer.push fragment (after framer events).pending).2 := by
  rw [after_concat_append, pending_append]

/-- A fragment that leaves nothing pending makes the buffer quiet. -/
theorem quiet_append {buffer : TimedBuffer} (answered : buffer.awaiting = false) {fragment : Text}
    (complete : (framer.push fragment buffer.pending).2 = []) :
    Quiet (buffer.append framer fragment).2 := by
  have closed : (buffer.append framer fragment).2 =
      { buffer with pending := [], awaiting := false }.disarm := by
    simp [append, complete, answered]
  rw [closed]
  exact ⟨rfl, rfl, rfl⟩

/-- How a history stands after a fragment that leaves text pending. -/
theorem loaded_append {events : List Event} {fragment : Text} {since first : Nat}
    (answered : (after framer events).awaiting = false)
    (filled : (framer.push fragment (after framer events).pending).2 ≠ [])
    (pendingSince : PendingSince framer (events ++ [.append fragment]) since)
    (began : Began (events ++ [.append fragment])
      (framer.push fragment (after framer events).pending).2 first)
    (origin : first = since ∨
      since ≤ first ∧ CompletedAt framer (events ++ [.append fragment]) first)
    (masterDue : ((after framer events).due? .master).getD
      (elapsed events + framer.masterTimeout) = since + framer.masterTimeout)
    (inTime : elapsed events ≤ since + framer.masterTimeout) :
    Loaded framer (events ++ [.append fragment]) since first (elapsed events) := by
  obtain ⟨master, data⟩ := due?_append filled
  refine ⟨?_, pendingSince, ?_, origin, ⟨fragment, ?_⟩, ?_, ?_, ?_⟩
  · rw [after_concat_append, awaiting_append, answered, Bool.false_and]
  · rwa [pending_concat_append]
  · rw [deliveries_concat_append, List.getLast?_concat]
  · rw [after_concat_append, master, now_after, masterDue]
  · rw [after_concat_append, data, now_after]
  · rw [elapsed_concat, Event.duration]
    exact Nat.le_min.mpr ⟨inTime, Nat.le_add_right _ _⟩

/-- How a history of fragments and pauses stands. -/
def Stands (framer : Framer) (events : List Event) : Prop :=
  Quiet (after framer events) ∨ ∃ since first last, Loaded framer events since first last

theorem Quiet.stands_append (plain : framer.pattern? = none) {events : List Event}
    (quiet : Quiet (after framer events)) (fragment : Text) :
    Stands framer (events ++ [.append fragment]) := by
  by_cases complete : (framer.push fragment (after framer events).pending).2 = []
  · left
    rw [after_concat_append]
    exact quiet_append quiet.answered complete
  · right
    have suffix : (framer.push fragment (after framer events).pending).2 <:+ fragment := by
      rw [Framer.push_pending plain, quiet.pending, List.nil_append]
      exact framer.tail_suffix fragment
    have pendingSince : PendingSince framer (events ++ [.append fragment]) (elapsed events) :=
      .begins quiet.pending (by rwa [pending_concat_append])
    have masterDue : ((after framer events).due? .master).getD
        (elapsed events + framer.masterTimeout) = elapsed events + framer.masterTimeout := by
      rw [quiet.due?_master, Option.getD_none]
    refine ⟨elapsed events, elapsed events, elapsed events, ?_⟩
    exact loaded_append quiet.answered complete pendingSince
      (began_of_suffix events suffix complete) (.inl rfl) masterDue (Nat.le_add_right _ _)

theorem Loaded.stands_append (plain : framer.pattern? = none) {events : List Event}
    {since first last : Nat} (loaded : Loaded framer events since first last) (fragment : Text) :
    Stands framer (events ++ [.append fragment]) := by
  by_cases complete : (framer.push fragment (after framer events).pending).2 = []
  · left
    rw [after_concat_append]
    exact quiet_append loaded.answered complete
  · right
    have pendingSince : PendingSince framer (events ++ [.append fragment]) since :=
      .goesOn loaded.pendingSince (by rwa [pending_concat_append])
    have masterDue : ((after framer events).due? .master).getD
        (elapsed events + framer.masterTimeout) = since + framer.masterTimeout := by
      rw [loaded.masterDue, Option.getD_some]
    have inTime := (Nat.le_min.mp loaded.inTime).1
    have filled : (after framer events).pending ≠ [] := loaded.pendingSince.filled
    rcases Framer.push_cases plain filled (not_ends_of_mem_pending plain events) fragment with
      goesOn | ⟨completes, suffix⟩
    · refine ⟨since, first, elapsed events, ?_⟩
      refine loaded_append loaded.answered complete pendingSince ?_ ?_ masterDue inTime
      · rw [goesOn]
        exact loaded.began.append fragment
      · exact loaded.origin.imp_right fun ⟨later, completed⟩ => ⟨later, completed.concat _⟩
    · have completed : CompletedAt framer (events ++ [.append fragment]) (elapsed events) :=
        ⟨events, fragment, [], rfl, rfl, filled, by rwa [messages_append]⟩
      refine ⟨since, elapsed events, elapsed events, ?_⟩
      exact loaded_append loaded.answered complete pendingSince
        (began_of_suffix events suffix complete)
        (.inr ⟨loaded.pendingSince.le_elapsed, completed⟩) masterDue inTime

/-- Waiting empties the buffer, or changes no more than the clock. -/
theorem Loaded.stands_wait {events : List Event} {since first last : Nat}
    (loaded : Loaded framer events since first last) (milliseconds : Nat) :
    Stands framer (events ++ [.wait milliseconds]) := by
  obtain ⟨kind, timer, found, due⟩ := exists_first?_of_due? loaded.masterDue loaded.dataDue
  have next : after framer (events ++ [.wait milliseconds]) =
      ((after framer events).wait framer milliseconds).2 := after_concat events (.wait milliseconds)
  rcases wait_cases framer milliseconds (after framer events) with
    ⟨_, _, _, _, fired⟩ | ⟨early, idle⟩
  · left
    rw [next, fired]
    exact ⟨rfl, rfl, rfl⟩
  · right
    rw [idle] at next
    have later := early kind timer found
    rw [due, now_after] at later
    refine ⟨since, first, last, ?_, .goesOn loaded.pendingSince ?_, ?_, ?_, ?_, ?_, ?_, ?_⟩
    · rw [next]; exact loaded.answered
    · rw [next]; exact loaded.pendingSince.filled
    · obtain ⟨earlier, c, rest, arrived, text⟩ := loaded.began
      rw [next]
      exact ⟨earlier, c, rest, (arrivals_concat_wait events milliseconds).trans arrived, text⟩
    · exact loaded.origin.imp_right fun ⟨later, completed⟩ => ⟨later, completed.concat _⟩
    · obtain ⟨fragment, lastOne⟩ := loaded.lastDelivery
      exact ⟨fragment, by rw [deliveries_concat_wait, lastOne]⟩
    · rw [next]; exact loaded.masterDue
    · rw [next]; exact loaded.dataDue
    · rw [elapsed_concat, Event.duration]
      exact Nat.le_of_lt later

theorem Quiet.wait_eq {buffer : TimedBuffer} (quiet : Quiet buffer) (framer : Framer)
    (milliseconds : Nat) :
    buffer.wait framer milliseconds = ([], { buffer with now := buffer.now + milliseconds }) := by
  simp only [wait, quiet.calm]

theorem Quiet.stands_wait {events : List Event} (quiet : Quiet (after framer events))
    (milliseconds : Nat) : Stands framer (events ++ [.wait milliseconds]) := by
  left
  rw [after_concat, perform, quiet.wait_eq]
  exact ⟨quiet.pending, quiet.calm, quiet.answered⟩

theorem stands (plain : framer.pattern? = none) {events : List Event}
    (traffic : ∀ event ∈ events, event.isTraffic = true) : Stands framer events := by
  induction events using List.reverseRecOn with
  | nil => exact .inl ⟨rfl, rfl, rfl⟩
  | append_singleton events event inductionHypothesis =>
      simp only [List.forall_mem_append, List.forall_mem_singleton] at traffic
      have before := inductionHypothesis traffic.1
      cases event with
      | append fragment =>
          rcases before with quiet | ⟨since, first, last, loaded⟩
          · exact quiet.stands_append plain fragment
          · exact loaded.stands_append plain fragment
      | wait milliseconds =>
          rcases before with quiet | ⟨since, first, last, loaded⟩
          · exact quiet.stands_wait milliseconds
          · exact loaded.stands_wait milliseconds
      | start | stop | expire | pass => cases traffic.2

/-- What is pending is flushed when the first of its timers is due. -/
theorem Loaded.flushesAt (plain : framer.pattern? = none) {events : List Event}
    {since first last : Nat} (loaded : Loaded framer events since first last) :
    FlushesAt framer (after framer events)
      (min (since + framer.masterTimeout) (last + framer.dataTimeout))
      (after framer events).pending := by
  obtain ⟨kind, timer, found, due⟩ := exists_first?_of_due? loaded.masterDue loaded.dataDue
  have now := now_after framer events
  refine ⟨now ▸ loaded.inTime, fun milliseconds => ?_⟩
  rcases wait_cases framer milliseconds (after framer events) with
    ⟨_, other, foundToo, reached, fired⟩ | ⟨early, idle⟩
  · obtain ⟨rfl, rfl⟩ := Prod.mk.inj (Option.some.inj (found.symm.trans foundToo))
    rw [due] at reached
    rw [fired, messages_stop plain loaded.answered, if_neg (Nat.not_lt.mpr reached)]
    simp [loaded.pendingSince.filled]
  · have later := early kind timer found
    rw [due] at later
    rw [idle, if_pos later]

/-- A flush: what a timer emits at a moment, and what is known of the fragments before. -/
structure Flush (framer : Framer) (events : List Event) (text : Text)
    (moment since first last : Nat) : Prop where
  flushes : FlushesAt framer (after framer events) moment text
  pendingSince : PendingSince framer events since
  began : Began events text first
  lastDelivery : LastDelivery events last
  /-- It was silent for the time of the data timer, or text was pending for that of the master
  timer. -/
  timedOut : last + framer.dataTimeout ≤ moment ∨ since + framer.masterTimeout ≤ moment
  /-- The text has been pending all that time, unless a fragment completed a message and began
  it. -/
  origin : first = since ∨ since ≤ first ∧ CompletedAt framer events first
  /-- Only if such a fragment began it may the text be flushed too early for its own first
  character. -/
  onTime : last + framer.dataTimeout ≤ moment ∨ first + framer.masterTimeout ≤ moment ↔
    last + framer.dataTimeout ≤ moment ∨ first = since

theorem Loaded.flush (plain : framer.pattern? = none) {events : List Event}
    {since first last : Nat} (loaded : Loaded framer events since first last) :
    Flush framer events (after framer events).pending
      (min (since + framer.masterTimeout) (last + framer.dataTimeout)) since first last where
  flushes := loaded.flushesAt plain
  pendingSince := loaded.pendingSince
  began := loaded.began
  lastDelivery := loaded.lastDelivery
  timedOut := by omega
  origin := loaded.origin
  onTime := by
    have ordered : since ≤ first := loaded.origin.elim (fun same => Nat.le_of_eq same.symm) And.left
    omega

/-- Whenever waiting makes a buffer without a pattern emit a text, after any fragments and pauses:
at that moment nothing had arrived for the time of the data timer, or text had been pending without
a break for the time of the master timer. The text began with that, or with a later fragment that
completed a message. -/
theorem wait_emits_after_timeout (framer : Framer) (plain : framer.pattern? = none)
    (events : List Event) (traffic : ∀ event ∈ events, event.isTraffic = true)
    (milliseconds : Nat) (text : Text)
    (emits : text ∈ ((after framer events).wait framer milliseconds).1) :
    ∃ moment since first last, moment ≤ elapsed events + milliseconds ∧
      Flush framer events text moment since first last := by
  rcases stands plain traffic with quiet | ⟨since, first, last, loaded⟩
  · rw [quiet.wait_eq] at emits
    cases emits
  · have flush := loaded.flush plain
    have waited := flush.flushes.2 milliseconds
    rw [now_after] at waited
    rw [waited] at emits
    split at emits
    case isTrue => cases emits
    case isFalse reached =>
      obtain rfl := List.mem_singleton.mp emits
      exact ⟨_, since, first, last, Nat.not_lt.mp reached, flush⟩

/-- A fragment completes the message that is pending and begins another one. -/
def overlapping : List Event :=
  [.append "a", .wait 400, .append "\nb"]

/-- The `b` of such a fragment is flushed. -/
theorem wait_emits_after_timeout_overlapping :
    let framer : Framer := ⟨"\n", none, 600, 500⟩
    "b".toList ∈ ((after framer overlapping).wait framer 300).1 ∧
      ∃ moment since first last, moment ≤ 700 ∧
        Flush framer overlapping "b" moment since first last :=
  ⟨by decide, wait_emits_after_timeout ⟨"\n", none, 600, 500⟩ rfl overlapping (by decide) 300 "b"
    (by decide)⟩

/-- It is flushed 200 milliseconds after it arrived, although the data timer waits for 500 and the
master timer for 600. -/
theorem overlapping_flushed_early :
    let framer : Framer := ⟨"\n", none, 600, 500⟩
    FlushesAt framer (after framer overlapping) 600 "b" ∧ LastDelivery overlapping 400 ∧
      Began overlapping "b" 400 ∧ ¬ (400 + framer.dataTimeout ≤ 600 ∨
        400 + framer.masterTimeout ≤ 600) := by
  intro framer
  have first : (after framer overlapping).first? = some (.master, ⟨0, 600⟩) := by decide
  have taken : ((after framer overlapping).stop framer).1 = ["b".toList] := by decide
  have now : (after framer overlapping).now = 400 := by decide
  refine ⟨⟨by decide, fun milliseconds => ?_⟩, ⟨"\nb", rfl⟩,
    ⟨[(0, 'a'), (400, '\n')], 'b', [], rfl, rfl⟩, by decide⟩
  rcases wait_cases framer milliseconds (after framer overlapping) with
    ⟨_, timer, found, due, fired⟩ | ⟨early, idle⟩
  · cases first.symm.trans found
    rw [fired, taken, if_neg (Nat.not_lt.mpr due)]
  · rw [idle, if_pos (early _ _ first)]

end TimedBuffer

end CommandLink
