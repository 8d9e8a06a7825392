import CommandLink.Interpreter.Listing
import CommandLink.Proofs.Value.Fields
import Mathlib.Data.List.Flatten
import Mathlib.Data.List.Nodup

/-!
# State dumps

A state dump asks properties and operations one after the other. If no operation changes the state
when it is asked (`Interpreter.IsQuiet`), all entries are those of one state, so that a dump as lines
and a dump as JSON have the same entries. A JSON object keeps only the last of several entries with
one name, though, and names do not tell below which root a component hangs: `dumps_agree_iff` says
when nothing is lost.
-/

namespace CommandLink

variable {σ : Type}

namespace Interpreter

variable {interpreter : Interpreter σ} {state : σ} {run : Run σ}

/-- An operation that is invoked for a dump leaves a state as it is. -/
def Leaves (interpreter : Interpreter σ) (state : σ) (target : OperationMatch σ) : Prop :=
  (target.operation.handler interpreter.directory [] state).2 = state

/-- No operation that belongs to state dumps changes a state when it is invoked for one. -/
def IsQuiet (interpreter : Interpreter σ) (state : σ) : Prop :=
  ∀ entry ∈ Component.walk interpreter.components, ∀ target ∈ reporters entry.2,
    interpreter.Leaves state target

/-- What an operation adds to a dump of a state: nothing if a guard cancels it or if it fails. -/
def report? (interpreter : Interpreter σ) (state : σ) (path : Text) (target : OperationMatch σ) :
    Option Entry :=
  let operation := target.operation
  match Guard.check (target.owner.read state) operation.name operation.guards with
  | some _ => none
  | none =>
      ((interpreter.invoke target [] { state }).1.bind
          (applyOutput operation.output? operation.name)).toOption.map
        fun value => (qualify path operation.name, value)

/-- What components add to a dump of a state, for each first its properties. -/
def reports (interpreter : Interpreter σ) (state : σ) (entries : List (Text × Component σ)) :
    List Entry :=
  entries.flatMap fun (path, component) =>
    propertyEntries path component state ++
      (reporters component).filterMap (interpreter.report? state path)

/-- All entries of a state. -/
def snapshot (interpreter : Interpreter σ) (state : σ) : List Entry :=
  interpreter.reports state (Component.walk interpreter.components)

/-- The names under which components may add to a dump. -/
def reportNames (entries : List (Text × Component σ)) : List Text :=
  entries.flatMap fun (path, component) =>
    (component.properties.filter (·.remoteState)).map (fun property => qualify path property.name) ++
      (reporters component).map fun target => qualify path target.operation.name

/-- What an operation gives depends on the state only, and the state stays if the handler leaves
it. -/
theorem invoke_of_leaves {target : OperationMatch σ}
    (leaves : interpreter.Leaves run.state target) :
    (interpreter.invoke target [] run).1 = (interpreter.invoke target [] { state := run.state }).1 ∧
      (interpreter.invoke target [] run).2.state = run.state := by
  unfold invoke
  dsimp only
  split
  case h_1 => exact ⟨rfl, rfl⟩
  case h_2 => exact ⟨rfl, leaves⟩

theorem operationEntries_of_quiet (path : Text) {targets : List (OperationMatch σ)}
    (quiet : ∀ target ∈ targets, interpreter.Leaves state target)
    (current : run.state = state) :
    (interpreter.operationEntries path targets run).1 =
        targets.filterMap (interpreter.report? state path) ∧
      (interpreter.operationEntries path targets run).2.state = state := by
  subst current
  induction targets generalizing run with
  | nil => exact ⟨rfl, rfl⟩
  | cons target targets inductionHypothesis =>
      rw [List.forall_mem_cons] at quiet
      obtain ⟨given, still⟩ := invoke_of_leaves quiet.1
      unfold operationEntries
      rw [List.filterMap_cons, report?]
      dsimp only
      cases Guard.check (target.owner.read run.state) target.operation.name
          target.operation.guards with
      | some message => exact inductionHypothesis quiet.2
      | none =>
          rw [← still] at quiet
          obtain ⟨later, same⟩ := inductionHypothesis quiet.2
          rw [still] at later same
          simp only [← given]
          cases (interpreter.invoke target [] run).1.bind
              (applyOutput target.operation.output? target.operation.name) with
          | ok value => exact ⟨congrArg _ later, same⟩
          | error error => exact ⟨later, same⟩

theorem collect_of_quiet {entries : List (Text × Component σ)}
    (quiet : ∀ entry ∈ entries, ∀ target ∈ reporters entry.2, interpreter.Leaves state target)
    (current : run.state = state) :
    (interpreter.collect entries run).1 = interpreter.reports state entries ∧
      (interpreter.collect entries run).2.state = state := by
  induction entries generalizing run with
  | nil => exact ⟨rfl, current⟩
  | cons entry entries inductionHypothesis =>
      rw [List.forall_mem_cons] at quiet
      obtain ⟨operations, still⟩ := operationEntries_of_quiet entry.1 quiet.1 current
      obtain ⟨later, same⟩ := inductionHypothesis quiet.2 still
      refine ⟨?_, same⟩
      simp only [collect, operations, later, current, reports, List.flatMap_cons]

theorem stateEntries_of_quiet (quiet : interpreter.IsQuiet state) (current : run.state = state) :
    (interpreter.stateEntries run).1 = interpreter.snapshot state ∧
      (interpreter.stateEntries run).2.state = state :=
  collect_of_quiet quiet current

/-- Entries that are named after what they come from, each from at most one, keep the order of the
names. -/
theorem names_filterMap_sublist {α : Type} {entryOf? : α → Option Entry} {name : α → Text}
    (named : ∀ member entry, entryOf? member = some entry → entry.1 = name member)
    (members : List α) :
    ((members.filterMap entryOf?).map Prod.fst).Sublist (members.map name) := by
  induction members with
  | nil => exact List.nil_sublist _
  | cons member members inductionHypothesis =>
      cases given : entryOf? member with
      | none =>
          rw [List.filterMap_cons_none given]
          exact inductionHypothesis.cons _
      | some entry =>
          rw [List.filterMap_cons_some given, List.map_cons, List.map_cons,
            named member entry given]
          exact inductionHypothesis.cons_cons _

/-- Every entry has the name of the property or operation that it comes from. -/
theorem names_reports_sublist (interpreter : Interpreter σ) (state : σ)
    (entries : List (Text × Component σ)) :
    ((interpreter.reports state entries).map Prod.fst).Sublist (reportNames entries) := by
  rw [reports, List.map_flatMap]
  refine List.Sublist.flatMap_right _ fun entry _ => ?_
  rw [List.map_append]
  refine List.Sublist.append (names_filterMap_sublist ?_ _) (names_filterMap_sublist ?_ _)
  · intro property found shown
    obtain ⟨value, _, rfl⟩ := Option.map_eq_some_iff.mp shown
    rfl
  · intro target found reported
    unfold report? at reported
    dsimp only at reported
    split at reported
    case h_1 => cases reported
    case h_2 =>
      obtain ⟨value, _, rfl⟩ := Option.map_eq_some_iff.mp reported
      rfl

/-- A dump as lines and a dump as JSON show the entries of the state, except that the JSON object has
only the last of those with one name. So nothing is lost exactly if entries of one name are one
entry, and surely if no name belongs to two properties or operations. -/
theorem dumps_agree_iff {other : Run σ} (quiet : interpreter.IsQuiet state)
    (current : run.state = state) (currentOther : other.state = state) :
    let entries := interpreter.snapshot state
    let fields := Value.orderFields entries
    (interpreter.stateLines run).1 = Text.join ['\n'] (entries.map entryLine) ∧
      (interpreter.jsonState other).1 = Value.compact (.object fields) ∧
      (interpreter.stateLines run).2.state = state ∧ (interpreter.jsonState other).2.state = state ∧
      Value.IsOrdered fields ∧ fields ⊆ entries ∧
      (∀ field, field ∈ fields ↔ ∃ earlier later,
        entries = earlier ++ field :: later ∧ ∀ entry ∈ later, entry.1 ≠ field.1) ∧
      (entries ⊆ fields ↔ ∀ left ∈ entries, ∀ right ∈ entries, left.1 = right.1 → left = right) ∧
      ((reportNames (Component.walk interpreter.components)).Nodup → entries ⊆ fields) := by
  intro entries fields
  obtain ⟨collected, same⟩ := stateEntries_of_quiet quiet current
  obtain ⟨collectedOther, sameOther⟩ := stateEntries_of_quiet quiet currentOther
  refine ⟨?_, ?_, same, sameOther, Value.isOrdered_orderFields entries,
    fun _ => Value.mem_of_mem_orderFields, fun _ => Value.mem_orderFields_iff,
    Value.subset_orderFields_iff, fun distinct => ?_⟩
  · unfold stateLines
    dsimp only
    rw [collected]
  · unfold jsonState
    dsimp only
    rw [collectedOther]
  · have names : (entries.map Prod.fst).Nodup :=
      (interpreter.names_reports_sublist state _).nodup distinct
    exact Value.subset_orderFields_iff.mpr fun left memberLeft right memberRight equal =>
      List.inj_on_of_nodup_map names memberLeft memberRight equal

/-- A device that shows whether it records and how full its battery is, with a lens below it. The
state is the charge. -/
def recorder : Interpreter Nat where
  components :=
    let shown (name : Text) (value : Value) : Property Nat := {
      name
      kind := .int
      remoteState := true
      access := .scalar (fun _ => .ok value) none }
    let battery : Operation Nat := {
      name := "Battery"
      remoteState := true
      handler := fun _ _ charge => (.ok (.ofInt charge), charge) }
    [{ identity := 0
       name := "Camera"
       operations := [battery]
       properties := [shown "IsRecording" (.bool false)]
       children := [{ identity := 1, name := "Lens", properties := [shown "Focus" (.ofInt 3)] }] }]

/-- No name of the recorder belongs to two of its properties and operations, so the JSON object has
all entries. -/
theorem dumps_agree_iff_recorder :
    recorder.IsQuiet 87 ∧ ({ state := 87 } : Run Nat).state = 87 ∧
      recorder.snapshot 87 ⊆ Value.orderFields (recorder.snapshot 87) := by
  have walked : Component.walk recorder.components = recorder.components.flatMap fun camera =>
      ([], camera) :: camera.children.map fun lens => ("Lens", lens) := by
    simp [recorder, Component.walk, Component.visit, Component.childAgenda, qualify]
  have quiet : recorder.IsQuiet 87 := by
    rw [IsQuiet, walked]
    simp [Leaves, recorder, reporters]
  have current : ({ state := 87 } : Run Nat).state = 87 := rfl
  refine ⟨quiet, current, ?_⟩
  obtain ⟨_, _, _, _, _, _, _, _, kept⟩ := dumps_agree_iff quiet current current
  apply kept
  rw [walked]
  decide

/-- Two devices that both have a mode. -/
def twoModes : Interpreter Unit where
  components :=
    let mode (value : Int) : Property Unit := {
      name := "Mode"
      kind := .int
      remoteState := true
      access := .scalar (fun _ => .ok (.ofInt value)) none }
    [{ identity := 0, name := "Left", properties := [mode 1] },
      { identity := 1, name := "Right", properties := [mode 2] }]

/-- Both modes are shown as lines, and only the second in the JSON object. -/
theorem exists_entry_dropped :
    twoModes.IsQuiet () ∧
      (twoModes.stateLines { state := () }).1 = "Mode:1\nMode:2" ∧
      (twoModes.jsonState { state := () }).1 = "\x7b\"Mode\":2\x7d" ∧
      (("Mode" : Text), Value.ofInt 1) ∈ (twoModes.stateEntries { state := () }).1 ∧
      (("Mode" : Text), Value.ofInt 1) ∉
        Value.orderFields (twoModes.stateEntries { state := () }).1 := by
  have walked : Component.walk twoModes.components = twoModes.components.map (([] : Text), ·) := by
    simp [twoModes, Component.walk, Component.visit, Component.childAgenda]
  have collected : (twoModes.stateEntries { state := () }).1 =
      [(("Mode" : Text), Value.ofInt 1), (("Mode" : Text), Value.ofInt 2)] := by
    rw [stateEntries, walked]
    rfl
  simp only [stateLines, jsonState, collected]
  exact ⟨fun _ _ _ _ => rfl, rfl, rfl, List.mem_cons_self, by decide⟩

end Interpreter

end CommandLink
