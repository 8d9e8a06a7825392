import CommandLink.Framing.Timed

/-!
# Timers and text

Arming and disarming timers does not touch the text: what a timed buffer emits and keeps is what the
framer makes of its pending text.
-/

namespace CommandLink.TimedBuffer

@[simp] theorem pending_arm (framer : Framer) (kind : TimerKind) (buffer : TimedBuffer) :
    (buffer.arm framer kind).pending = buffer.pending := by
  cases kind <;> rfl

@[simp] theorem awaiting_arm (framer : Framer) (kind : TimerKind) (buffer : TimedBuffer) :
    (buffer.arm framer kind).awaiting = buffer.awaiting := by
  cases kind <;> rfl

@[simp] theorem pending_disarm (buffer : TimedBuffer) : buffer.disarm.pending = buffer.pending :=
  rfl

@[simp] theorem awaiting_disarm (buffer : TimedBuffer) : buffer.disarm.awaiting = buffer.awaiting :=
  rfl

variable (framer : Framer) (fragment : Text) (buffer : TimedBuffer)

theorem messages_append :
    (buffer.append framer fragment).1 = (framer.push fragment buffer.pending).1 := by
  simp only [append]
  split <;> rfl

theorem pending_append :
    (buffer.append framer fragment).2.pending = (framer.push fragment buffer.pending).2 := by
  simp only [append]
  repeat' split
  all_goals simp

theorem awaiting_append :
    (buffer.append framer fragment).2.awaiting =
      (buffer.awaiting && (framer.push fragment buffer.pending).1.isEmpty) := by
  simp only [append]
  repeat' split
  all_goals simp

/-- No timer runs on where nothing is left pending and no request is open. -/
theorem armed_append_of_complete (complete : (framer.push fragment buffer.pending).2 = [])
    (answered : (buffer.append framer fragment).2.awaiting = false) :
    (buffer.append framer fragment).2.armed = false := by
  rw [awaiting_append] at answered
  simp [append, complete, answered, disarm, armed]

theorem first?_of_not_armed {buffer : TimedBuffer} (unarmed : buffer.armed = false) :
    buffer.first? = none := by
  simp only [armed, Bool.or_eq_false_iff, Option.isSome_eq_false_iff, Option.isNone_iff_eq_none]
    at unarmed
  simp [first?, unarmed]

/-- Without a pattern and with no request to answer, stopping emits what is pending. -/
theorem messages_stop {framer : Framer} {buffer : TimedBuffer} (plain : framer.pattern? = none)
    (answered : buffer.awaiting = false) :
    (buffer.stop framer).1 = [buffer.pending].filter (!·.isEmpty) := by
  simp only [stop, drain, Framer.flush, plain, Option.bind_none, Option.none_or, pending_disarm,
    awaiting_disarm, answered]
  by_cases empty : buffer.pending = []
  · simp [empty]
  · simp [empty]

end CommandLink.TimedBuffer
