import CommandLink.Demo.Camera
import CommandLink.Proofs.Dispatch.Candidates

/-!
# Cancelled dispatches

A guard that trips cancels all of a dispatch, whichever of the matches carries it. The guards in the
way of a target are its `checkpoints`, in the order in which they are asked; `dispatch_cancelled`
says that the first of them that trips gives the only outcome, and that nothing else happens.
-/

namespace CommandLink

variable {σ : Type}

/-- A guard in the way of a target, with the component whose properties it looks at and the name
that it reports. -/
structure Checkpoint (σ : Type) where
  owner : Component σ
  name : Text
  guard : Guard

namespace Checkpoint

/-- Whether the guard trips. -/
def trips (state : σ) (checkpoint : Checkpoint σ) : Bool :=
  checkpoint.guard.trips (checkpoint.owner.read state)

/-- What the operator is told if it does. -/
def message (checkpoint : Checkpoint σ) : Text :=
  checkpoint.guard.describe checkpoint.name

/-- The guards of one owner. -/
def ofGuards (owner : Component σ) (name : Text) (guards : List Guard) : List (Checkpoint σ) :=
  guards.map fun guard => ⟨owner, name, guard⟩

theorem check_eq_find? (owner : Component σ) (name : Text) (guards : List Guard) (state : σ) :
    Guard.check (owner.read state) name guards =
      ((ofGuards owner name guards).find? (·.trips state)).map message := by
  simp only [Guard.check, ofGuards, List.find?_map, Option.map_map]
  rfl

end Checkpoint

namespace Target

/-- The guards of the matched operations, in the order of the matches. -/
def operationCheckpoints (target : Target σ) : List (Checkpoint σ) :=
  target.operations.flatMap fun matched =>
    Checkpoint.ofGuards matched.owner matched.operation.name matched.operation.guards

/-- The guards of the matched properties, in the order of the matches. -/
def propertyCheckpoints (target : Target σ) : List (Checkpoint σ) :=
  target.properties.flatMap fun matched =>
    Checkpoint.ofGuards matched.owner matched.property.name matched.property.guards

/-- The guards in the way of a target: those of the operations, and then those of the properties if
there is an argument to write. -/
def checkpoints (target : Target σ) : List (Checkpoint σ) :=
  target.operationCheckpoints ++
    if target.arguments.length = 1 then target.propertyCheckpoints else []

/-- A guard of some match trips. A property's guards count only against writing. -/
def Tripped (target : Target σ) (state : σ) : Prop :=
  (∃ matched ∈ target.operations, ∃ guard ∈ matched.operation.guards,
      guard.trips (matched.owner.read state) = true) ∨
    target.arguments.length = 1 ∧
      ∃ matched ∈ target.properties, ∃ guard ∈ matched.property.guards,
        guard.trips (matched.owner.read state) = true

theorem Tripped.matches {target : Target σ} {state : σ} (tripped : target.Tripped state) :
    target.Matches := by
  rcases tripped with ⟨matched, member, _⟩ | ⟨_, matched, member, _⟩
  · exact .inl (List.ne_nil_of_mem member)
  · exact .inr (List.ne_nil_of_mem member)

/-- If a guard trips, one of the checkpoints is the first that does. -/
theorem Tripped.exists_first {target : Target σ} {state : σ} (tripped : target.Tripped state) :
    ∃ checkpoint, target.checkpoints.find? (·.trips state) = some checkpoint := by
  suffices some_trips : ∃ checkpoint ∈ target.checkpoints, checkpoint.trips state = true by
    simpa [← Option.isSome_iff_exists] using some_trips
  rcases tripped with ⟨matched, member, guard, among, trips⟩ |
    ⟨single, matched, member, guard, among, trips⟩
  · refine ⟨⟨matched.owner, matched.operation.name, guard⟩, ?_, trips⟩
    apply List.mem_append_left
    exact List.mem_flatMap.mpr ⟨matched, member, List.mem_map_of_mem among⟩
  · refine ⟨⟨matched.owner, matched.property.name, guard⟩, ?_, trips⟩
    apply List.mem_append_right
    rw [if_pos single]
    exact List.mem_flatMap.mpr ⟨matched, member, List.mem_map_of_mem among⟩

/-- A checkpoint that trips is a guard of a match that trips. -/
theorem tripped_of_mem_checkpoints {target : Target σ} {state : σ} {checkpoint : Checkpoint σ}
    (member : checkpoint ∈ target.checkpoints) (trips : checkpoint.trips state = true) :
    target.Tripped state := by
  rcases List.mem_append.mp member with operation | property
  · obtain ⟨matched, among, guarded⟩ := List.mem_flatMap.mp operation
    obtain ⟨guard, carried, rfl⟩ := List.mem_map.mp guarded
    exact .inl ⟨matched, among, guard, carried, trips⟩
  · split at property
    case isFalse => cases property
    case isTrue single =>
      obtain ⟨matched, among, guarded⟩ := List.mem_flatMap.mp property
      obtain ⟨guard, carried, rfl⟩ := List.mem_map.mp guarded
      exact .inr ⟨single, matched, among, guard, carried, trips⟩

/-- What a target is cancelled with is what the first tripped checkpoint says. -/
theorem tripped?_resolution (target : Target σ) (state : σ) :
    target.resolution.tripped? state =
      (target.checkpoints.find? (·.trips state)).map Checkpoint.message := by
  have operations : (target.operations.findSome? fun matched =>
      Guard.check (matched.owner.read state) matched.operation.name matched.operation.guards) =
        (target.operationCheckpoints.find? (·.trips state)).map Checkpoint.message := by
    simp only [Checkpoint.check_eq_find?, operationCheckpoints, List.find?_flatMap,
      List.map_findSome?]
    rfl
  have properties : (target.properties.findSome? fun matched =>
      Guard.check (matched.owner.read state) matched.property.name matched.property.guards) =
        (target.propertyCheckpoints.find? (·.trips state)).map Checkpoint.message := by
    simp only [Checkpoint.check_eq_find?, propertyCheckpoints, List.find?_flatMap,
      List.map_findSome?]
    rfl
  simp only [Resolution.tripped?, resolution, operations, properties, checkpoints,
    List.find?_append, beq_iff_eq]
  split <;> simp [Option.map_or]

/-- A target no guard of which trips is not cancelled. -/
theorem tripped?_eq_none {target : Target σ} {state : σ} (calm : ¬ target.Tripped state) :
    target.resolution.tripped? state = none := by
  have still : target.checkpoints.find? (·.trips state) = none :=
    List.find?_eq_none.mpr fun _ member trips => calm (tripped_of_mem_checkpoints member trips)
  rw [tripped?_resolution, still]
  rfl

end Target

namespace Interpreter

/-- A target one of whose guards trips is cancelled by the first that does. -/
theorem perform_tripped (interpreter : Interpreter σ) {target : Target σ} {run : Run σ}
    {checkpoint : Checkpoint σ}
    (first : target.checkpoints.find? (·.trips run.state) = some checkpoint) :
    interpreter.perform target.resolution run =
      ([⟨target.command, .error (.cancelled checkpoint.message)⟩], run) := by
  have tripped := target.tripped?_resolution run.state
  rw [first] at tripped
  simp only [perform, tripped, Option.map_some]
  rfl

/-- A tripped guard of any match of the first matching target cancels the whole dispatch: the first
guard that trips gives the only outcome, no target after this one is tried, and neither the state
nor the record of calls changes. -/
theorem dispatch_cancelled (interpreter : Interpreter σ) (input : Text) (run : Run σ)
    {earlier later : List (Target σ)} {target : Target σ}
    (ordinary : Builtin.ofLine? (Line.parse input) = none)
    (listed : Target.candidates interpreter.components (Line.parse input) =
      earlier ++ target :: later)
    (unmatched : ∀ other ∈ earlier, ¬ other.Matches)
    (tripped : target.Tripped run.state) :
    ∃ checkpoint, target.checkpoints.find? (·.trips run.state) = some checkpoint ∧
      interpreter.dispatch input run =
        ([⟨target.command, .error (.cancelled checkpoint.message)⟩], run) ∧
      interpreter.tryTargets (Target.candidates interpreter.components (Line.parse input)) run =
        ([⟨target.command, .error (.cancelled checkpoint.message)⟩], run, later) := by
  obtain ⟨checkpoint, first⟩ := tripped.exists_first
  have tried : interpreter.tryTargets (earlier ++ target :: later) run =
      ([⟨target.command, .error (.cancelled checkpoint.message)⟩], run, later) := by
    rw [interpreter.tryTargets_append unmatched, interpreter.tryTargets_cons tripped.matches,
      interpreter.perform_tripped first]
  refine ⟨checkpoint, first, ?_, ?_⟩
  · rw [dispatch, interpreter.dispatchLine_eq_tryTargets ordinary, listed, tried]
  · rw [listed, tried]

/-- Two cameras of one name. -/
def twinCameras : Interpreter (Camera × Camera) where
  components := [
    Camera.component 0 {
      read := Prod.fst
      write := fun camera cameras => (camera, cameras.2)
      read_write := fun _ _ => rfl },
    Camera.component 1 {
      read := Prod.snd
      write := fun camera cameras => (cameras.1, camera)
      read_write := fun _ _ => rfl }]

/-- While the second of two cameras is recording, no sensitivity is set, not even that of the first.
The line is also one with two arguments for a command `Camera`, which is not tried. -/
theorem dispatch_cancelled_twinCameras :
    twinCameras.dispatch "Camera.Iso.800" { state := ({}, { recording := true }) } =
      ([⟨"Iso", .error (.cancelled "Cannot execute Iso when IsRecording == true")⟩],
        { state := ({}, { recording := true }) }) := by
  let target : Target (Camera × Camera) := ⟨twinCameras.components, "Iso", ["800"]⟩
  have ordinary : Builtin.ofLine? (Line.parse "Camera.Iso.800") = none := by decide
  have listed : Target.candidates twinCameras.components (Line.parse "Camera.Iso.800") =
      [] ++ target :: [⟨twinCameras.components, "Camera", ["Iso", "800"]⟩] := rfl
  have tripped : target.Tripped ({}, { recording := true }) := by
    refine .inr ⟨rfl, ⟨_, 1, (Camera.properties _)[1]⟩,
      List.mem_cons_of_mem _ List.mem_cons_self, Camera.notWhileRecording, List.mem_cons_self, ?_⟩
    decide
  obtain ⟨checkpoint, first, dispatched, _⟩ :=
    twinCameras.dispatch_cancelled "Camera.Iso.800" { state := ({}, { recording := true }) }
      ordinary listed (by simp) tripped
  have said : (target.checkpoints.find? (·.trips ({}, { recording := true }))).map
      Checkpoint.message = some "Cannot execute Iso when IsRecording == true" := by decide
  rw [first] at said
  rw [dispatched, Option.some.inj said]

end Interpreter

end CommandLink
