import CommandLink.Demo.Studio
import CommandLink.Proofs.Dispatch.Effects
import CommandLink.Proofs.Dispatch.Outcomes

/-!
# The camera under commands

Whatever lines a camera is sent, its sensitivity and its mode stay among those that it has, and
while it is recording no line changes either (`sound_interpretAll`). Its handlers leave both alone
(`handler_sameSettings`), its setters keep to the limits (`set_sound`), and each of them is guarded
(`guards_of_settable`).
-/

namespace CommandLink

variable {σ τ : Type}

namespace Camera

/-- The sensitivity is within the limits, and the mode is one of the declared ones. -/
structure Sound (camera : Camera) : Prop where
  low : 50 ≤ camera.iso
  high : camera.iso ≤ 6400
  mode : camera.mode ∈ (["Photo", "Video", "Timelapse"] : List Text)

/-- Neither the sensitivity nor the mode has changed. -/
structure SameSettings (before after : Camera) : Prop where
  iso : after.iso = before.iso
  mode : after.mode = before.mode

namespace SameSettings

variable {before middle after : Camera}

theorem refl (camera : Camera) : SameSettings camera camera := ⟨rfl, rfl⟩

theorem trans (first : SameSettings before middle) (second : SameSettings middle after) :
    SameSettings before after :=
  ⟨second.iso.trans first.iso, second.mode.trans first.mode⟩

theorem sound (same : SameSettings before after) (sound : before.Sound) : after.Sound := by
  obtain ⟨low, high, mode⟩ := sound
  rw [← same.iso] at low high
  rw [← same.mode] at mode
  exact ⟨low, high, mode⟩

end SameSettings

/-- A camera that nothing has been done to. -/
theorem sound_new : Sound {} := by
  refine ⟨?_, ?_, ?_⟩ <;> decide

variable {cell : Cell σ Camera} {state : σ}

theorem sameSettings_modify (cell : Cell σ Camera) {change : Camera → Camera}
    (keeps : ∀ camera, SameSettings camera (change camera)) (state : σ) :
    SameSettings (cell.read state) (cell.read (cell.modify change state)) := by
  rw [Cell.modify, cell.read_write]
  exact keeps _

theorem sameSettings_put (cell : Cell σ Camera) {α : Type} (read? : Option α) (refusal : Text)
    {change : α → Camera → Camera} (keeps : ∀ value camera, SameSettings camera (change value camera))
    (state : σ) :
    SameSettings (cell.read state) (cell.read (put cell read? refusal change state).2) := by
  cases read? with
  | none => exact .refl _
  | some value => exact sameSettings_modify cell (keeps value) state

/-- No operation of a camera changes its sensitivity or its mode. -/
theorem handler_sameSettings {operation : Operation σ} (member : operation ∈ operations cell)
    (directory : Directory) (arguments : List Value) (state : σ) :
    SameSettings (cell.read state)
      (cell.read (operation.handler directory arguments state).2) := by
  simp only [operations, List.mem_cons, List.not_mem_nil, or_false] at member
  rcases member with rfl | rfl | rfl | rfl | rfl <;> simp only [Operation.action]
  · refine sameSettings_modify cell ?_ state
    exact fun _ => ⟨rfl, rfl⟩
  · refine sameSettings_modify cell ?_ state
    exact fun _ => ⟨rfl, rfl⟩
  · exact .refl _
  · refine sameSettings_put cell _ _ ?_ state
    exact fun _ _ => ⟨rfl, rfl⟩
  · exact .refl _

/-- Merging the presets changes neither the sensitivity nor the mode. -/
theorem merge_sameSettings {property : Property σ} {access : ListAccess σ}
    (member : property ∈ properties cell) (listed : property.access = .list access)
    (items : List Value) (state : σ) :
    SameSettings (cell.read state) (cell.read (access.makeEqual items state).2) := by
  simp only [properties, List.mem_cons, List.not_mem_nil, or_false] at member
  rcases member with rfl | rfl | rfl | rfl
  case inr.inr.inr =>
    cases listed
    simp only [SharedList.access, SharedList.makeEqual]
    split
    · exact .refl _
    · refine sameSettings_modify cell ?_ state
      exact fun _ => ⟨rfl, rfl⟩
  all_goals cases listed

theorem sound_isoOf? {value : Value} {iso : Int} (read : isoOf? value = some iso) :
    50 ≤ iso ∧ iso ≤ 6400 := by
  simpa using (Option.filter_eq_some_iff.mp read).2

/-- A setter of a camera that is given a value of the property's kind keeps to what is sound. -/
theorem set_sound {property : Property σ} {get : σ → Except Fault Value}
    {set : Value → σ → Except Fault Unit × σ} {value : Value}
    (member : property ∈ properties cell) (settable : property.access = .scalar get (some set))
    (admits : property.kind.Admits value) (sound : (cell.read state).Sound) :
    (cell.read (set value state).2).Sound := by
  simp only [properties, List.mem_cons, List.not_mem_nil, or_false] at member
  rcases member with rfl | rfl | rfl | rfl
  case inr.inl =>
    cases settable
    cases read : isoOf? value with
    | none => simpa [put, read] using sound
    | some iso =>
        obtain ⟨low, high⟩ := sound_isoOf? read
        simp only [put, read, Cell.modify, cell.read_write]
        exact ⟨low, high, sound.mode⟩
  case inr.inr.inl =>
    cases settable
    cases admits with
    | enumeration declared =>
        simp only [put, Value.toText?, Cell.modify, cell.read_write]
        exact ⟨sound.low, sound.high, declared⟩
  all_goals cases settable

/-- What can be set at a camera is guarded while it is recording. -/
theorem guards_of_settable {property : Property σ} {get : σ → Except Fault Value}
    {set : Value → σ → Except Fault Unit × σ} (member : property ∈ properties cell)
    (settable : property.access = .scalar get (some set)) :
    property.guards = [notWhileRecording] := by
  simp only [properties, List.mem_cons, List.not_mem_nil, or_false] at member
  rcases member with rfl | rfl | rfl | rfl
  case inr.inl => rfl
  case inr.inr.inl => rfl
  all_goals cases settable

theorem converter?_eq_none {property : Property σ} (member : property ∈ properties cell) :
    property.converter? = none := by
  simp only [properties, List.mem_cons, List.not_mem_nil, or_false] at member
  rcases member with rfl | rfl | rfl | rfl <;> rfl

/-- The guard trips exactly while the camera is recording. -/
theorem notWhileRecording_trips (identity : Nat) (cell : Cell σ Camera) (state : σ) :
    notWhileRecording.trips ((component identity cell).read state) =
      (cell.read state).recording := by
  have path : (List.splitOn '.' "IsRecording".toList).map Text.trim = ["IsRecording"] := by decide
  have found : (component identity cell).read state "IsRecording" =
      some (.bool (cell.read state).recording) := by
    rw [Component.read, path]
    rfl
  simp only [notWhileRecording, Guard.ofCondition, Guard.trips, Condition.holds, List.isEmpty_cons,
    Bool.not_false, Bool.true_and, List.all_cons, List.all_nil, Bool.and_true, found]
  cases (cell.read state).recording <;> rfl

end Camera

namespace AliasOffice

variable {office : AliasOffice σ τ} {cell : Cell σ Camera}

/-- What is done at the desk is done to the desk alone. -/
theorem read_visit {α : Type}
    (apart : ∀ desk state, cell.read (office.desk.write desk state) = cell.read state)
    (work : AliasDesk τ → Except AliasError α × AliasDesk τ) (state : σ) :
    cell.read (office.visit work state).2 = cell.read state := by
  unfold visit
  split
  · exact apart _ state
  · rfl

/-- The administration of aliases leaves a camera alone that is kept somewhere else. -/
theorem read_handler
    (apart : ∀ desk state, cell.read (office.desk.write desk state) = cell.read state)
    {operation : Operation σ} (member : operation ∈ office.operations) (directory : Directory)
    (arguments : List Value) (state : σ) :
    cell.read (operation.handler directory arguments state).2 = cell.read state := by
  simp only [operations, List.mem_cons, List.not_mem_nil, or_false] at member
  rcases member with rfl | rfl | rfl | rfl | rfl
  case inr.inr.inr.inr => exact read_visit apart _ state
  all_goals
    simp only [adding, removing, Operation.action]
    exact read_visit apart _ state

end AliasOffice

namespace Interpreter

/-- An interpreter holds nothing but a camera and the administration of its aliases, has no
converters of its own, and neither the desk nor the dispatcher is in the way of the camera. -/
structure ServesCamera (interpreter : Interpreter σ) (cell : Cell σ Camera)
    (office : AliasOffice σ τ) : Prop where
  registered : ∀ component ∈ interpreter.components, ∃ identity,
    component = Camera.component identity cell ∨ component = office.component identity
  unnamed : interpreter.converters = []
  apart : ∀ desk state, cell.read (office.desk.write desk state) = cell.read state
  aside : ∀ dispatcher ∈ interpreter.dispatcher?, ∀ state,
    cell.read (dispatcher.enter state) = cell.read state

namespace ServesCamera

variable {interpreter : Interpreter σ} {cell : Cell σ Camera} {office : AliasOffice σ τ}
  {line : Line} {start before after : σ}

/-- Nothing hangs below the camera or the administration. -/
theorem exists_of_mem_walk (serves : interpreter.ServesCamera cell office) {owner : Component σ}
    (known : owner ∈ (Component.walk interpreter.components).map Prod.snd) :
    ∃ identity, owner = Camera.component identity cell ∨ owner = office.component identity := by
  have childless : ∀ component ∈ interpreter.components, component.children = [] := by
    intro component member
    obtain ⟨identity, rfl | rfl⟩ := serves.registered component member <;> rfl
  rw [Component.map_snd_walk_of_childless childless] at known
  exact serves.registered owner known

/-- No handler changes the sensitivity or the mode. -/
theorem handles_sameSettings (serves : interpreter.ServesCamera cell office)
    {arguments : List Text} {matched : OperationMatch σ}
    (known : matched.owner ∈ (Component.walk interpreter.components).map Prod.snd)
    (found : matched.operation ∈ matched.owner.operations)
    (handles : Handles interpreter arguments matched before after) :
    Camera.SameSettings (cell.read before) (cell.read after) := by
  obtain ⟨converted⟩ := handles
  obtain ⟨identity, camera | administration⟩ := serves.exists_of_mem_walk known
  · rw [camera] at found
    exact Camera.handler_sameSettings found _ _ before
  · rw [administration] at found
    rw [AliasOffice.read_handler serves.apart found]
    exact .refl _

/-- Only properties of the camera can be matched, for the administration has none. -/
theorem exists_of_mem_properties (serves : interpreter.ServesCamera cell office)
    {target : Target σ} (chosen : Target.chosen? interpreter.components line = some target)
    {matched : PropertyMatch σ} (member : matched ∈ target.properties) :
    ∃ identity, matched.owner = Camera.component identity cell ∧
      matched.property ∈ Camera.properties cell := by
  obtain ⟨owned, found⟩ := Target.spec_of_mem_properties member
  have known := (Target.owners_sublist_walk_of_chosen? chosen).subset owned
  have among := List.mem_of_getElem? found
  obtain ⟨identity, camera | administration⟩ := serves.exists_of_mem_walk known
  · rw [camera] at among
    exact ⟨identity, camera, among⟩
  · rw [administration] at among
    cases among

/-- While the camera is recording, a guard is in the way of every line that would set something. -/
theorem tripped (serves : interpreter.ServesCamera cell office) {target : Target σ}
    (chosen : Target.chosen? interpreter.components line = some target)
    {matched : PropertyMatch σ} (member : matched ∈ target.properties) {raw : Text}
    (given : target.arguments.head? = some raw) {get : σ → Except Fault Value}
    {set : Value → σ → Except Fault Unit × σ}
    (settable : matched.property.access = .scalar get (some set))
    (recording : (cell.read start).recording = true) : target.Tripped start := by
  obtain ⟨identity, camera, among⟩ := serves.exists_of_mem_properties chosen member
  refine .inr ⟨Target.length_arguments_of_mem_properties member given, matched, member,
    Camera.notWhileRecording, ?_, ?_⟩
  · rw [Camera.guards_of_settable among settable]
    exact List.mem_singleton_self _
  · rw [camera, Camera.notWhileRecording_trips, recording]

/-- An effect of a line leaves the sensitivity and the mode alone, unless it sets one of them, to
what is sound and while the camera is not recording. -/
theorem effect_cases (serves : interpreter.ServesCamera cell office)
    (effect : interpreter.Effect line start before after) :
    Camera.SameSettings (cell.read before) (cell.read after) ∨
      (cell.read start).recording = false ∧
        ((cell.read before).Sound → (cell.read after).Sound) := by
  cases effect with
  | @invoked target matched _ _ chosen calm member handles =>
      obtain ⟨owned, found, _⟩ := Target.spec_of_mem_operations member
      have known := (Target.owners_sublist_walk_of_chosen? chosen).subset owned
      exact .inl (serves.handles_sameSettings known (List.mem_of_getElem? found) handles)
  | reported known member handles =>
      obtain ⟨⟨operation, place⟩, kept, rfl⟩ := List.mem_map.mp member
      have found := List.mem_of_getElem?
        (List.mem_zipIdx_iff_getElem?.mp (List.mem_filter.mp kept).1)
      exact .inl (serves.handles_sameSettings known found handles)
  | @written target matched _ _ chosen calm member stores =>
      obtain ⟨identity, camera, among⟩ := serves.exists_of_mem_properties chosen member
      cases stores with
      | @setter raw value get set given converted settable =>
          have named : interpreter.converter? matched.property.name = none := by
            rw [Interpreter.converter?, serves.unnamed, List.lookup_nil]
          rw [Camera.converter?_eq_none among, named] at converted
          refine .inr ⟨?_, Camera.set_sound among settable (Kind.admits_of_convert converted)⟩
          by_contra recording
          exact calm (serves.tripped chosen member given settable (by simpa using recording))
      | merge given converted listed =>
          exact .inl (Camera.merge_sameSettings among listed _ before)
      | enter asked =>
          rw [serves.aside _ asked]
          exact .inl (.refl _)

theorem sound_of_effects (serves : interpreter.ServesCamera cell office)
    (effects : Relation.ReflTransGen (interpreter.Effect line start) before after)
    (sound : (cell.read before).Sound) : (cell.read after).Sound := by
  induction effects with
  | refl => exact sound
  | tail _ effect inductionHypothesis =>
      rcases serves.effect_cases effect with same | ⟨_, keeps⟩
      · exact same.sound inductionHypothesis
      · exact keeps inductionHypothesis

theorem sameSettings_of_effects (serves : interpreter.ServesCamera cell office)
    (effects : Relation.ReflTransGen (interpreter.Effect line start) before after)
    (recording : (cell.read start).recording = true) :
    Camera.SameSettings (cell.read before) (cell.read after) := by
  induction effects with
  | refl => exact .refl _
  | tail _ effect inductionHypothesis =>
      rcases serves.effect_cases effect with same | ⟨still, _⟩
      · exact inductionHypothesis.trans same
      · rw [recording] at still
        cases still

/-- A line leaves a sound camera sound. -/
theorem sound_interpret (serves : interpreter.ServesCamera cell office) (input : Text)
    {run : Run σ} (sound : (cell.read run.state).Sound) :
    (cell.read (interpreter.interpret input run).2.2.state).Sound := by
  rw [(interpreter.interpret_spec input run).1]
  exact serves.sound_of_effects (interpreter.effects_of_dispatchLine (Line.parse input) run) sound

/-- While the camera is recording, a line changes neither its sensitivity nor its mode. -/
theorem sameSettings_interpret (serves : interpreter.ServesCamera cell office) (input : Text)
    {run : Run σ} (recording : (cell.read run.state).recording = true) :
    Camera.SameSettings (cell.read run.state)
      (cell.read (interpreter.interpret input run).2.2.state) := by
  rw [(interpreter.interpret_spec input run).1]
  exact serves.sameSettings_of_effects
    (interpreter.effects_of_dispatchLine (Line.parse input) run) recording

end ServesCamera

/-- Interpret lines in turn. -/
def interpretAll (interpreter : Interpreter σ) : List Text → Run σ → Run σ
  | [], run => run
  | input :: inputs, run => interpreter.interpretAll inputs (interpreter.interpret input run).2.2

namespace ServesCamera

variable {interpreter : Interpreter σ} {cell : Cell σ Camera} {office : AliasOffice σ τ}

theorem sound_interpretAll_of_sound (serves : interpreter.ServesCamera cell office)
    (inputs : List Text) {run : Run σ} (sound : (cell.read run.state).Sound) :
    (cell.read (interpreter.interpretAll inputs run).state).Sound := by
  induction inputs generalizing run with
  | nil => exact sound
  | cons input inputs inductionHypothesis =>
      exact inductionHypothesis (serves.sound_interpret input sound)

/-- A new camera that is sent any lines keeps its sensitivity within the limits and its mode among
the declared ones, and whenever it is recording then, no further line changes either. -/
theorem sound_interpretAll (serves : interpreter.ServesCamera cell office) {run : Run σ}
    (new : cell.read run.state = {}) (inputs : List Text) :
    (cell.read (interpreter.interpretAll inputs run).state).Sound ∧
      ∀ input, (cell.read (interpreter.interpretAll inputs run).state).recording = true →
        Camera.SameSettings (cell.read (interpreter.interpretAll inputs run).state)
          (cell.read
            (interpreter.interpret input (interpreter.interpretAll inputs run)).2.2.state) := by
  constructor
  · apply serves.sound_interpretAll_of_sound
    rw [new]
    exact Camera.sound_new
  · intro input recording
    exact serves.sameSettings_interpret input recording

end ServesCamera

end Interpreter

/-- A studio serves its camera. -/
theorem Studio.servesCamera (options : InterpreterOptions) :
    (interpreter options).ServesCamera cameraCell office where
  registered component member := by
    obtain rfl | rfl : component = Camera.component 0 cameraCell ∨
        component = office.component 1 := by
      simpa [interpreter, Interpreter.register, Camera.component, AliasOffice.component] using member
    · exact ⟨0, .inl rfl⟩
    · exact ⟨1, .inr rfl⟩
  unnamed := rfl
  apart _ _ := rfl
  aside dispatcher asked := by cases asked

/-- A studio without aliases, and without a settings file. -/
def Studio.unused : Studio where
  aliases := { settings := { tree := [], disk := {} } }

/-- A studio is asked for a sensitivity in a dotted line and for a mode by its index, and then to
record. What it is asked for after that is refused. -/
theorem Studio.sound_interpretAll_recording :
    let run := (interpreter {}).interpretAll ["camera.iso.800", "Mode:0", "StartRecording"]
      { state := unused }
    run.state.camera = { recording := true, iso := 800, mode := "Photo" } ∧
      run.state.camera.Sound ∧
      Camera.SameSettings run.state.camera
        ((interpreter {}).interpret "Iso:400" run).2.2.state.camera := by
  intro run
  have new : cameraCell.read (⟨unused, 0, []⟩ : Run Studio).state = {} := rfl
  obtain ⟨sound, same⟩ := (servesCamera {}).sound_interpretAll new
    ["camera.iso.800", "Mode:0", "StartRecording"]
  have recorded : run.state.camera = { recording := true, iso := 800, mode := "Photo" } := by
    decide +kernel
  have recording : run.state.camera.recording = true := by rw [recorded]
  exact ⟨recorded, sound, same "Iso:400" recording⟩

end CommandLink
