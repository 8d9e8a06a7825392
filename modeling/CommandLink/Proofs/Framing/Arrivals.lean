import CommandLink.Proofs.Framing.Events
import Mathlib.Data.List.Induction

/-!
# Arrivals

When the fragments and the characters of a history arrive. This depends on the events alone, not on
the framer, and the clock of every buffer agrees with it (`now_after`).
-/

namespace CommandLink.TimedBuffer

namespace Event

/-- How much time an event takes. -/
def duration : Event → Nat
  | .pass milliseconds | .wait milliseconds => milliseconds
  | .append _ | .start | .stop | .expire _ _ => 0

end Event

/-- How much time a history takes. -/
def elapsed : List Event → Nat
  | [] => 0
  | event :: rest => event.duration + elapsed rest

/-- The fragments of a history that begins at `time`, each with the moment at which it arrives. -/
def deliveries (time : Nat) : List Event → List (Nat × Text)
  | [] => []
  | .append fragment :: rest => (time, fragment) :: deliveries time rest
  | event :: rest => deliveries (time + event.duration) rest

/-- The characters of a history, each with the moment at which it arrives. -/
def arrivals (events : List Event) : List (Nat × Char) :=
  (deliveries 0 events).flatMap fun delivery => delivery.2.map fun c => (delivery.1, c)

/-- The last fragment of a history arrived at a moment. -/
def LastDelivery (events : List Event) (moment : Nat) : Prop :=
  ∃ fragment, (deliveries 0 events).getLast? = some (moment, fragment)

/-- A text is what arrived last in a history, and its first character arrived at a moment. -/
def Began (events : List Event) (text : Text) (moment : Nat) : Prop :=
  ∃ earlier c rest, arrivals events = earlier ++ (moment, c) :: rest ∧ text = c :: rest.map Prod.snd

@[simp] theorem now_arm (framer : Framer) (kind : TimerKind) (buffer : TimedBuffer) :
    (buffer.arm framer kind).now = buffer.now := by
  cases kind <;> rfl

@[simp] theorem now_disarm (buffer : TimedBuffer) : buffer.disarm.now = buffer.now :=
  rfl

theorem now_append (framer : Framer) (fragment : Text) (buffer : TimedBuffer) :
    (buffer.append framer fragment).2.now = buffer.now := by
  simp only [append]
  repeat' split
  all_goals simp

/-- The clock goes on by the time that an event takes. -/
theorem now_perform (framer : Framer) (event : Event) (buffer : TimedBuffer) :
    (buffer.perform framer event).2.now = buffer.now + event.duration := by
  cases event with
  | append fragment => exact now_append framer fragment buffer
  | start => simp [perform, start, Event.duration]
  | stop => rfl
  | expire kind token =>
      simp only [perform, expire]
      split <;> rfl
  | pass milliseconds => rfl
  | wait milliseconds =>
      rw [perform]
      obtain ⟨kind, timer, _, _, fired⟩ | ⟨_, idle⟩ := wait_cases framer milliseconds buffer
      · rw [fired]
        rfl
      · rw [idle]
        rfl

theorem elapsed_concat (events : List Event) (event : Event) :
    elapsed (events ++ [event]) = elapsed events + event.duration := by
  induction events with
  | nil => simp [elapsed]
  | cons first events inductionHypothesis =>
      simp [elapsed, inductionHypothesis, Nat.add_assoc]

theorem now_after (framer : Framer) (events : List Event) :
    (after framer events).now = elapsed events := by
  induction events using List.reverseRecOn with
  | nil => rfl
  | append_singleton events event inductionHypothesis =>
      rw [after_concat, now_perform, inductionHypothesis, elapsed_concat]

theorem deliveries_append (time : Nat) (earlier later : List Event) :
    deliveries time (earlier ++ later) =
      deliveries time earlier ++ deliveries (time + elapsed earlier) later := by
  induction earlier generalizing time with
  | nil => simp [deliveries, elapsed]
  | cons event earlier inductionHypothesis =>
      cases event <;>
        simp [deliveries, elapsed, Event.duration, inductionHypothesis, Nat.add_assoc]

theorem deliveries_concat_append (events : List Event) (fragment : Text) :
    deliveries 0 (events ++ [.append fragment]) =
      deliveries 0 events ++ [(elapsed events, fragment)] := by
  rw [deliveries_append, Nat.zero_add]
  rfl

theorem deliveries_concat_wait (events : List Event) (milliseconds : Nat) :
    deliveries 0 (events ++ [.wait milliseconds]) = deliveries 0 events := by
  simp [deliveries_append, deliveries]

theorem arrivals_concat_append (events : List Event) (fragment : Text) :
    arrivals (events ++ [.append fragment]) =
      arrivals events ++ fragment.map fun c => (elapsed events, c) := by
  simp [arrivals, deliveries_concat_append]

theorem arrivals_concat_wait (events : List Event) (milliseconds : Nat) :
    arrivals (events ++ [.wait milliseconds]) = arrivals events := by
  rw [arrivals, deliveries_concat_wait, arrivals]

/-- The last characters of a fragment arrive with it. -/
theorem began_of_suffix (events : List Event) {fragment text : Text} (suffix : text <:+ fragment)
    (filled : text ≠ []) : Began (events ++ [.append fragment]) text (elapsed events) := by
  obtain ⟨front, rfl⟩ := suffix
  obtain ⟨c, rest, rfl⟩ := List.exists_cons_of_ne_nil filled
  refine ⟨arrivals events ++ front.map fun c => (elapsed events, c), c,
    rest.map fun c => (elapsed events, c), ?_, ?_⟩
  · simp [arrivals_concat_append]
  · simp [Function.comp_def]

theorem Began.append {events : List Event} {text : Text} {moment : Nat}
    (began : Began events text moment) (fragment : Text) :
    Began (events ++ [.append fragment]) (text ++ fragment) moment := by
  obtain ⟨earlier, c, rest, arrived, rfl⟩ := began
  refine ⟨earlier, c, rest ++ fragment.map fun c => (elapsed events, c), ?_, ?_⟩
  · rw [arrivals_concat_append, arrived]
    simp
  · simp [Function.comp_def]

end CommandLink.TimedBuffer
