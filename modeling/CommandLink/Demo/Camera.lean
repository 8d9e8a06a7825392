import CommandLink.Component.SharedList

/-!
# A camera

A camera to try commands on. Most of its settings cannot be changed while it is recording.
-/

namespace CommandLink

/-- The state of a camera. -/
structure Camera where
  recording : Bool := false
  iso : Int := 100
  mode : Text := "Video"
  timeZone : Text := "UTC"
  presets : List Value := [.ofInt 100, .ofInt 400, .ofInt 1600]
deriving DecidableEq

namespace Camera

/-- The list of presets of a camera. -/
def presetCell : Cell Camera (List Value) where
  read := presets
  write presets camera := { camera with presets }
  read_write _ _ := rfl

/-- The kind of capture modes. -/
def modeKind : Kind :=
  .enumeration "CaptureMode" ["Photo", "Video", "Timelapse"]

/-- The guard of what must not be done while the camera is recording. -/
def notWhileRecording : Guard :=
  .ofCondition "IsRecording" .eq (.bool true)

/-- The sensitivity that a value is. -/
def isoOf? (value : Value) : Option Int :=
  value.toInt?.filter fun iso => 50 ≤ iso && iso ≤ 6400

/-- All settings of a camera. -/
def settings (camera : Camera) : Value :=
  .object [
    ("iso", .ofInt camera.iso),
    ("mode", .string camera.mode),
    ("recording", .bool camera.recording),
    ("time_zone", .string camera.timeZone)]

variable {σ : Type}

/-- Change the camera by what a value says, or refuse the value. -/
def put {α : Type} (cell : Cell σ Camera) (read? : Option α) (refusal : Text)
    (change : α → Camera → Camera) (state : σ) : Except Fault Unit × σ :=
  match read? with
  | some value => (.ok (), cell.modify (change value) state)
  | none => (.error (.error refusal), state)

/-- The properties of a camera. -/
def properties (cell : Cell σ Camera) : List (Property σ) := [
  { name := "IsRecording"
    aliases := ["Recording"]
    kind := .bool
    remoteState := true
    access := .scalar (fun state => .ok (.bool (cell.read state).recording)) none },
  { name := "Iso"
    kind := .int
    remoteState := true
    guards := [notWhileRecording]
    access := .scalar (fun state => .ok (.ofInt (cell.read state).iso))
      (some fun value => put cell (isoOf? value) "ISO must be 50..6400"
        fun iso camera => { camera with iso }) },
  { name := "Mode"
    kind := modeKind
    remoteState := true
    guards := [notWhileRecording]
    access := .scalar (fun state => .ok (.string (cell.read state).mode))
      (some fun value => put cell value.toText? "mode must be text"
        fun mode camera => { camera with mode }) },
  { name := "IsoPresets"
    kind := .list .int
    remoteState := true
    access := .list (SharedList.access .int (cell.comp presetCell)) }]

/-- The operations of a camera. -/
def operations (cell : Cell σ Camera) : List (Operation σ) := [
  .action "StartRecording" fun _ _ state =>
    (.ok (), cell.modify (fun camera => { camera with recording := true }) state),
  .action "StopRecording" fun _ _ state =>
    (.ok (), cell.modify (fun camera => { camera with recording := false }) state),
  { Operation.action "FormatStorage" fun _ _ state => (.ok (), state) with
    guards := [{ notWhileRecording with
      message? := some "Stop recording before formatting storage" }] },
  { Operation.action "SetTimeZone" fun _ arguments state =>
      put cell (arguments.head?.bind (·.toText?)) "time zone required"
        (fun timeZone camera => { camera with timeZone }) state with
    parameters := [⟨"zone", .string⟩] },
  { name := "Settings"
    hidden := true
    handler := fun _ _ state => (.ok (cell.read state).settings, state) }]

/-- A camera as a component. -/
def component (identity : Nat) (cell : Cell σ Camera) : Component σ where
  identity
  name := "Camera"
  operations := operations cell
  properties := properties cell

end Camera

end CommandLink
