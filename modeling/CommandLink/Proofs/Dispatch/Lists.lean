import CommandLink.Proofs.Component.SharedLists
import CommandLink.Proofs.Dispatch.Runs

/-!
# Writing to shared lists

A line writes to a shared list as a whole or not at all. Three things can keep it from that: the
argument, the items that it converts to, and the dispatcher that is to carry out the merge. Unless one
of them does, the list is afterwards what the line says, and otherwise it is what it was
(`dispatch_list`).
-/

namespace CommandLink

variable {σ : Type}

/-- A line with arguments, however they are found, is no built-in command. -/
theorem Target.ordinary_of_mem_candidates {components : List (Component σ)} {line : Line}
    {target : Target σ} (member : target ∈ candidates components line)
    (given : target.arguments ≠ []) : Builtin.ofLine? line = none := by
  obtain ⟨segments, arguments?⟩ := line
  match segments, arguments? with
  | [], _ => rfl
  | [name], none =>
      obtain rfl : target = ⟨components, name, []⟩ := List.mem_singleton.mp member
      exact absurd rfl given
  | [_], some _ => rfl
  | _ :: _ :: _, _ => rfl

/-- A property is a list in a cell, shown as it is. -/
structure Property.IsList (property : Property σ) (type : ElementType)
    (cell : Cell σ (List Value)) : Prop where
  access : property.access = .list (SharedList.access type cell)
  output : property.output? = none

theorem Property.IsList.showProperty_eq {property : Property σ} {type : ElementType}
    {cell : Cell σ (List Value)} (isList : property.IsList type cell) (state : σ) :
    Interpreter.showProperty property state =
      .ok (property.name ++ ':' :: (Value.array (cell.read state)).render) := by
  simp [Interpreter.showProperty, shown, Property.get, isList.access, isList.output,
    SharedList.access]

namespace Interpreter

/-- Why an argument leaves a list as it is. -/
inductive LeavesList (interpreter : Interpreter σ) (property : Property σ) (type : ElementType)
    (raw : Text) : Prop where
  /-- It does not convert. -/
  | unconverted {error} (rejected : Kind.convert property.converter?
        (interpreter.converter? property.name) raw property.kind = .error error) :
      LeavesList interpreter property type raw
  /-- An item of what it converts to is no element. -/
  | strange {value item} (converted : Kind.convert property.converter?
        (interpreter.converter? property.name) raw property.kind = .ok value)
      (member : item ∈ listItems value) (none : type.element? item = none) :
      LeavesList interpreter property type raw
  /-- The dispatcher does not run the update. -/
  | idle {dispatcher} (asked : interpreter.dispatcher? = some dispatcher)
      (undone : dispatcher.runs = false) : LeavesList interpreter property type raw

variable {interpreter : Interpreter σ} {property : Property σ} {type : ElementType}
  {cell : Cell σ (List Value)} {raw : Text}

/-- Of an argument that is merged neither conversion nor elements nor the dispatcher is in the way. -/
theorem not_leavesList {value : Value} {list : List Value}
    (converted : Kind.convert property.converter? (interpreter.converter? property.name) raw
      property.kind = .ok value)
    (same : type.Matches (listItems value) list)
    (runs : ∀ dispatcher ∈ interpreter.dispatcher?, dispatcher.runs = true) :
    ¬ interpreter.LeavesList property type raw := by
  intro leaves
  cases leaves with
  | unconverted rejected =>
      rw [converted] at rejected
      cases rejected
  | strange convertedOther member none =>
      obtain rfl := Except.ok.inj (converted.symm.trans convertedOther)
      exact same.isSome_element? _ member none
  | idle asked undone =>
      rw [runs _ asked] at undone
      cases undone

section Merging

variable (matched : PropertyMatch σ)
  (apart : ∀ dispatcher ∈ interpreter.dispatcher?, ∀ state,
    cell.read (dispatcher.enter state) = cell.read state)

include apart

/-- A merge is carried out on a state in which the list is what it was, or is left undone. -/
theorem mergeList_eq_or_undone (access : ListAccess σ) (items : List Value) (run : Run σ) :
    (∃ entered, cell.read entered = cell.read run.state ∧
      (∀ dispatcher ∈ interpreter.dispatcher?, dispatcher.runs = true) ∧
      interpreter.mergeList matched access items run =
        ((access.makeEqual items entered).1,
          { run with
            state := (access.makeEqual items entered).2
            calls := run.calls ++ [.merge matched.owner.identity matched.place items] })) ∨
    ∃ dispatcher ∈ interpreter.dispatcher?, dispatcher.runs = false ∧
      ∃ fault next, interpreter.mergeList matched access items run = (.error fault, next) ∧
        cell.read next.state = cell.read run.state := by
  cases asked : interpreter.dispatcher? with
  | none => exact .inl ⟨run.state, rfl, by simp, by simp only [mergeList, asked]⟩
  | some dispatcher =>
      have still := apart dispatcher asked run.state
      cases runs : dispatcher.runs with
      | false =>
          exact .inr ⟨dispatcher, rfl, runs, _, _, by simp only [mergeList, asked, runs]; rfl, still⟩
      | true =>
          exact .inl ⟨dispatcher.enter run.state, still, by simp [runs],
            by simp only [mergeList, asked, runs, if_true]⟩

/-- A merge through any dispatcher is done as a whole or leaves the list alone. -/
theorem mergeList_cases (items : List Value) (run : Run σ) :
    (∃ next, interpreter.mergeList matched (SharedList.access type cell) items run = (.ok (), next) ∧
      type.Matches items (cell.read next.state) ∧
      ∀ dispatcher ∈ interpreter.dispatcher?, dispatcher.runs = true) ∨
    ∃ fault next,
      interpreter.mergeList matched (SharedList.access type cell) items run = (.error fault, next) ∧
      cell.read next.state = cell.read run.state ∧
      ((∃ item ∈ items, type.element? item = none) ∨
        ∃ dispatcher ∈ interpreter.dispatcher?, dispatcher.runs = false) := by
  rcases mergeList_eq_or_undone matched apart (SharedList.access type cell) items run with
    ⟨entered, still, runs, merged⟩ | ⟨dispatcher, asked, undone, fault, next, refused, still⟩
  · rcases SharedList.makeEqual_cases type cell items entered with
      ⟨next, made, same⟩ | ⟨fault, refused, strange⟩
    · simp only [SharedList.access, made] at merged
      exact .inl ⟨_, merged, same, runs⟩
    · simp only [SharedList.access, refused] at merged
      exact .inr ⟨fault, _, merged, still, .inl strange⟩
  · exact .inr ⟨fault, next, refused, still, .inr ⟨dispatcher, asked, undone⟩⟩

/-- An argument is written to a list as a whole or leaves it alone. -/
theorem setProperty_cases (isList : matched.property.IsList type cell) (raw : Text) (run : Run σ) :
    (∃ value next, Kind.convert matched.property.converter?
        (interpreter.converter? matched.property.name) raw matched.property.kind = .ok value ∧
      interpreter.setProperty matched raw run = (.ok (matched.property.name ++ ':' ::
        (Value.array (cell.read next.state)).render), next) ∧
      type.Matches (listItems value) (cell.read next.state) ∧
      ¬ interpreter.LeavesList matched.property type raw) ∨
    ∃ error next, interpreter.setProperty matched raw run = (.error error, next) ∧
      cell.read next.state = cell.read run.state ∧
      interpreter.LeavesList matched.property type raw := by
  cases converted : Kind.convert matched.property.converter?
      (interpreter.converter? matched.property.name) raw matched.property.kind with
  | error error =>
      exact .inr ⟨_, run, by simp only [setProperty, converted]; rfl, rfl, .unconverted converted⟩
  | ok value =>
      have store : interpreter.store matched value run = interpreter.mergeList matched
          (SharedList.access type cell) (listItems value) run := by
        simp only [Interpreter.store, isList.access]
      rcases mergeList_cases matched apart (listItems value) run with
        ⟨next, merged, same, runs⟩ | ⟨fault, next, refused, still, reason⟩
      · refine .inl ⟨value, next, rfl, ?_, same, not_leavesList converted same runs⟩
        simp only [setProperty, converted, store, merged, isList.showProperty_eq]
      · refine .inr ⟨_, next, by simp only [setProperty, converted, store, refused]; rfl, still, ?_⟩
        rcases reason with ⟨item, member, none⟩ | ⟨dispatcher, asked, undone⟩
        · exact .strange converted member none
        · exact .idle asked undone

end Merging

/-- A line with one argument that leads to a shared list and nothing else, and that no guard cancels,
has one outcome. Either it is a success, which shows the list as it is then: as many elements as the
converted argument has items, and the same ones. Or it is an error, and the list is as it was. This is
so exactly if the argument does not convert, an item is no element, or the dispatcher does not run the
update. What else the dispatcher does must not touch the list. -/
theorem dispatch_list (interpreter : Interpreter σ) (input : Text) (run : Run σ)
    {earlier later : List (Target σ)} {target : Target σ} {matched : PropertyMatch σ}
    (listed : Target.candidates interpreter.components (Line.parse input) =
      earlier ++ target :: later)
    (unmatched : ∀ other ∈ earlier, ¬ other.Matches) (noOperation : target.operations = [])
    (only : target.properties = [matched]) (single : target.arguments = [raw])
    (calm : ¬ target.Tripped run.state) (isList : matched.property.IsList type cell)
    (apart : ∀ dispatcher ∈ interpreter.dispatcher?, ∀ state,
      cell.read (dispatcher.enter state) = cell.read state) :
    ∃ result last, interpreter.dispatch input run = ([⟨matched.property.name, result⟩], last) ∧
      ((∃ value, Kind.convert matched.property.converter?
            (interpreter.converter? matched.property.name) raw matched.property.kind = .ok value ∧
          result = .ok (matched.property.name ++ ':' ::
            (Value.array (cell.read last.state)).render) ∧
          (cell.read last.state).length = (listItems value).length ∧
          type.Matches (listItems value) (cell.read last.state) ∧
          ¬ interpreter.LeavesList matched.property type raw) ∨
        ∃ error, result = .error error ∧ cell.read last.state = cell.read run.state ∧
          interpreter.LeavesList matched.property type raw) := by
  have member : target ∈ Target.candidates interpreter.components (Line.parse input) := by
    simp [listed]
  have ordinary := Target.ordinary_of_mem_candidates member (by simp [single])
  have reached : target.Matches := .inr (only ▸ List.cons_ne_nil _ _)
  have dispatched : interpreter.dispatch input run =
      ([⟨matched.property.name, (interpreter.setProperty matched raw run).1⟩],
        (interpreter.setProperty matched raw run).2) := by
    rw [dispatch, interpreter.dispatchLine_eq_perform ordinary listed unmatched reached,
      interpreter.perform_properties noOperation calm, only, single]
    rfl
  rcases setProperty_cases matched apart isList raw run with
    ⟨value, next, converted, written, same, free⟩ | ⟨error, next, refused, still, leaves⟩
  · rw [written] at dispatched
    exact ⟨_, next, dispatched, .inl ⟨value, converted, rfl, same.length_eq.symm, same, free⟩⟩
  · rw [refused] at dispatched
    exact ⟨_, next, dispatched, .inr ⟨error, rfl, still, leaves⟩⟩

/-- The levels of a mixer, beside the number of times that its dispatcher was entered. -/
def levelsCell : Cell (List Value × Nat) (List Value) where
  read := Prod.fst
  write levels mixer := (levels, mixer.2)
  read_write _ _ := rfl

/-- A mixer whose levels are doubles. -/
def mixer : Interpreter (List Value × Nat) where
  components :=
    [{ identity := 0
       name := "Mixer"
       properties :=
        [{ name := "Levels"
           kind := .list .float
           access := .list (SharedList.access .float levelsCell) }] }]
  dispatcher? := some { enter := fun mixer => (mixer.1, mixer.2 + 1), runs := true }

/-- A zero takes the place of no other zero, and an integer serves as a double. -/
theorem dispatch_list_mixer :
    let zero : Value := .number (.float .zero)
    let items : List Value := [.number (.float { Double.zero with negative := true }),
      .number (.float (.ofInt 2))]
    ∃ last, mixer.dispatch "Levels:[-0.0,2]" { state := ([zero], 0) } =
        ([⟨"Levels", .ok "Levels:[0.0,2.0]"⟩], last) ∧
      (levelsCell.read last.state).length = 2 ∧
      ElementType.float.Matches items (levelsCell.read last.state) := by
  intro zero items
  let run : Run (List Value × Nat) := { state := ([zero], 0) }
  let target : Target (List Value × Nat) := ⟨mixer.components, "Levels", ["[-0.0,2]"]⟩
  have parsed : Line.parse "Levels:[-0.0,2]" = ⟨["Levels"], some ["[-0.0,2]"]⟩ := by decide +kernel
  have listed : Target.candidates mixer.components (Line.parse "Levels:[-0.0,2]") =
      [] ++ target :: [] := by
    rw [parsed]
    rfl
  have calm : ¬ target.Tripped run.state := by
    intro tripped
    obtain ⟨checkpoint, first⟩ := tripped.exists_first
    have unguarded : target.checkpoints = [] := rfl
    rw [unguarded] at first
    cases first
  have converts : Kind.convert none none "[-0.0,2]" (.list .float) = .ok (.array items) := by
    decide +kernel
  have elements : ElementType.float.Matches items items :=
    .cons ⟨_, rfl, Value.same_self _⟩ (.cons ⟨_, rfl, Value.same_self _⟩ .nil)
  have said : (mixer.dispatch "Levels:[-0.0,2]" run).1.map (·.message) =
      ["Levels:[0.0,2.0]".toList] := by decide +kernel
  obtain ⟨result, last, dispatched, written | ⟨_, _, _, leaves⟩⟩ :=
    mixer.dispatch_list "Levels:[-0.0,2]" run listed (by simp) rfl rfl rfl calm ⟨rfl, rfl⟩
      (by rintro _ ⟨⟩ _; rfl)
  · obtain ⟨value, converted, rfl, length, same, _⟩ := written
    obtain rfl := Except.ok.inj (converted.symm.trans converts)
    rw [dispatched] at said
    obtain text := List.singleton_inj.mp said
    exact ⟨last, dispatched.trans (by rw [← text]; rfl), length, same⟩
  · exact absurd leaves (not_leavesList converts elements (by rintro _ ⟨⟩; rfl))

end Interpreter

end CommandLink
