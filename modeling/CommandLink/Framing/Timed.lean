import CommandLink.Framing.Buffer

/-!
# Timed buffers

A frame buffer with two timers. The master timer runs from the first fragment of a message,
whatever else arrives; the data timer begins anew with every fragment. The one that fires first
takes the pending text as it is. A request that was announced by `start` is answered by one message
at least, an empty one if nothing arrives.
-/

namespace CommandLink

/-- The two timers. -/
inductive TimerKind where
  | master
  | data
deriving DecidableEq, Repr

/-- A timer that runs. The token tells it from timers that ran before. -/
structure Timer where
  token : Nat
  /-- When it fires. -/
  due : Nat
deriving DecidableEq, Repr

/-- A frame buffer with its timers and its clock. -/
structure TimedBuffer where
  /-- The time in milliseconds. -/
  now : Nat := 0
  pending : Text := []
  master? : Option Timer := none
  data? : Option Timer := none
  nextToken : Nat := 0
  /-- A request has not been answered yet. -/
  awaiting : Bool := false
deriving DecidableEq, Repr

namespace TimedBuffer

/-- A timer, if it runs. -/
def timer? (buffer : TimedBuffer) : TimerKind → Option Timer
  | .master => buffer.master?
  | .data => buffer.data?

/-- Whether any timer runs. -/
def armed (buffer : TimedBuffer) : Bool :=
  buffer.master?.isSome || buffer.data?.isSome

/-- Stop both timers. -/
def disarm (buffer : TimedBuffer) : TimedBuffer :=
  { buffer with master? := none, data? := none }

/-- Start a timer anew. -/
def arm (framer : Framer) (kind : TimerKind) (buffer : TimedBuffer) : TimedBuffer :=
  let token := buffer.nextToken
  let nextToken := token + 1
  match kind with
  | .master =>
      { buffer with nextToken, master? := some ⟨token, buffer.now + framer.masterTimeout⟩ }
  | .data => { buffer with nextToken, data? := some ⟨token, buffer.now + framer.dataTimeout⟩ }

/-- Take what is pending for a message. An unanswered request is answered by an empty one if there
is no other. -/
def drain (framer : Framer) (buffer : TimedBuffer) : List Text × TimedBuffer :=
  let messages :=
    match framer.flush buffer.pending with
    | some message => [message]
    | none => if buffer.awaiting then [[]] else []
  (messages, { buffer with pending := [], awaiting := false })

/-- Append a fragment. While anything is pending both timers run. -/
def append (framer : Framer) (fragment : Text) (buffer : TimedBuffer) : List Text × TimedBuffer :=
  let (messages, pending) := framer.push fragment buffer.pending
  let buffer := { buffer with pending, awaiting := buffer.awaiting && messages.isEmpty }
  if pending.isEmpty then
    (messages, if buffer.awaiting then buffer else buffer.disarm)
  else
    let buffer := if buffer.master?.isNone then buffer.arm framer .master else buffer
    (messages, buffer.arm framer .data)

/-- Await one message: what is pending is forgotten, and the master timer starts. -/
def start (framer : Framer) (buffer : TimedBuffer) : TimedBuffer :=
  { buffer.disarm with pending := [], awaiting := true }.arm framer .master

/-- Stop both timers and take what is pending. -/
def stop (framer : Framer) (buffer : TimedBuffer) : List Text × TimedBuffer :=
  buffer.disarm.drain framer

/-- A timer fires. Nothing happens if it has been stopped or started anew in the meantime. -/
def expire (framer : Framer) (kind : TimerKind) (token : Nat) (buffer : TimedBuffer) :
    List Text × TimedBuffer :=
  if (buffer.timer? kind).map Timer.token = some token then buffer.stop framer else ([], buffer)

/-- The timer that fires first; the master timer if both are due at once. -/
def first? (buffer : TimedBuffer) : Option (TimerKind × Timer) :=
  match buffer.master?, buffer.data? with
  | some master, some data =>
      some (if master.due ≤ data.due then (TimerKind.master, master) else (TimerKind.data, data))
  | some master, none => some (.master, master)
  | none, some data => some (.data, data)
  | none, none => none

/-- Let a running timer come due and fire. -/
def fire (framer : Framer) (kind : TimerKind) (timer : Timer) (buffer : TimedBuffer) :
    List Text × TimedBuffer :=
  { buffer with now := max buffer.now timer.due }.expire framer kind timer.token

theorem timer?_of_first? {buffer : TimedBuffer} {kind : TimerKind} {timer : Timer}
    (first : buffer.first? = some (kind, timer)) : buffer.timer? kind = some timer := by
  unfold first? at first
  split at first
  · split at first <;> cases first <;> assumption
  · cases first; assumption
  · cases first; assumption
  · cases first

/-- No timer runs on after the one that is due first has fired. -/
theorem armed_fire (framer : Framer) {buffer : TimedBuffer} {kind : TimerKind} {timer : Timer}
    (first : buffer.first? = some (kind, timer)) :
    (buffer.fire framer kind timer).2.armed = false := by
  have found := timer?_of_first? first
  have running : ({ buffer with now := max buffer.now timer.due }.timer? kind).map Timer.token =
      some timer.token := by
    cases kind <;> simp_all [timer?]
  rw [fire, expire, if_pos running]
  rfl

/-- Let time pass. A timer that is due until then has fired afterwards, and since no timer runs on
after one has fired, only the first has to be looked at. -/
def wait (framer : Framer) (milliseconds : Nat) (buffer : TimedBuffer) : List Text × TimedBuffer :=
  let target := buffer.now + milliseconds
  match buffer.first? with
  | some (kind, timer) =>
      if timer.due ≤ target then
        let (messages, buffer) := buffer.fire framer kind timer
        (messages, { buffer with now := target })
      else ([], { buffer with now := target })
  | none => ([], { buffer with now := target })

end TimedBuffer

end CommandLink
