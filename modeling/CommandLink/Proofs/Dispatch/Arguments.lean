import CommandLink.Proofs.Dispatch.Repetition
import CommandLink.Proofs.Kind.Admission

/-!
# Arguments of calls

What device code is called with. Every call of a dispatch is of a match of the line, or of an
operation without parameters for a state dump (`Made`); if the registry has no converters of its
own, the values of each call are of the declared kinds (`dispatch_calls_typed`).
-/

namespace CommandLink

variable {σ : Type}

/-- A call with the values that it should have: as many as the operation has parameters, each of the
parameter's kind, or a value of the property's kind, which is merged item by item. -/
inductive Call.Typed (components : List (Component σ)) : Call → Prop where
  | handler {owner : Component σ} {place : Nat} {operation : Operation σ} {arguments : List Value}
      (known : owner ∈ components) (found : owner.operations[place]? = some operation)
      (typed : List.Forall₂ (fun parameter argument => parameter.kind.Admits argument)
        operation.parameters arguments) :
      Typed components (.handler owner.identity place arguments)
  | setter {owner : Component σ} {place : Nat} {property : Property σ} {value : Value}
      (known : owner ∈ components) (found : owner.properties[place]? = some property)
      (typed : property.kind.Admits value) : Typed components (.setter owner.identity place value)
  | merge {owner : Component σ} {place : Nat} {property : Property σ} {value : Value}
      (known : owner ∈ components) (found : owner.properties[place]? = some property)
      (typed : property.kind.Admits value) :
      Typed components (.merge owner.identity place (Interpreter.listItems value))

namespace Target

variable {target : Target σ}

theorem spec_of_mem_operationsOf {owner : Component σ} {matched : OperationMatch σ}
    (member : matched ∈ target.operationsOf owner) :
    matched.owner = owner ∧ owner.operations[matched.place]? = some matched.operation ∧
      matched.operation.answers target.command = true ∧
      matched.operation.parameters.length = target.arguments.length := by
  obtain ⟨⟨operation, place⟩, kept, rfl⟩ := List.mem_map.mp member
  obtain ⟨numbered, answers⟩ := List.mem_filter.mp kept
  simp only [Bool.and_eq_true, beq_iff_eq] at answers
  exact ⟨rfl, List.mem_zipIdx_iff_getElem?.mp numbered, answers⟩

/-- A matched operation is one of its owner's that answers to the command, with as many parameters
as there are arguments. -/
theorem spec_of_mem_operations {matched : OperationMatch σ} (member : matched ∈ target.operations) :
    matched.owner ∈ target.owners ∧
      matched.owner.operations[matched.place]? = some matched.operation ∧
      matched.operation.answers target.command = true ∧
      matched.operation.parameters.length = target.arguments.length := by
  have among : matched ∈ target.owners.flatMap target.operationsOf := by
    unfold operations at member
    dsimp only at member
    split at member
    · exact (List.mem_filter.mp member).1
    · exact member
  obtain ⟨owner, owned, inOwner⟩ := List.mem_flatMap.mp among
  obtain ⟨rfl, spec⟩ := spec_of_mem_operationsOf inOwner
  exact ⟨owned, spec⟩

/-- A matched property is one of its owner's. -/
theorem spec_of_mem_properties {matched : PropertyMatch σ} (member : matched ∈ target.properties) :
    matched.owner ∈ target.owners ∧
      matched.owner.properties[matched.place]? = some matched.property := by
  obtain ⟨owner, owned, inOwner⟩ := List.mem_flatMap.mp member
  unfold propertiesOf at inOwner
  split at inOwner
  · cases inOwner
  · obtain ⟨⟨property, place⟩, kept, rfl⟩ := List.mem_map.mp inOwner
    obtain ⟨numbered, _⟩ := List.mem_filter.mp kept
    exact ⟨owned, List.mem_zipIdx_iff_getElem?.mp numbered⟩

end Target

namespace Interpreter

/-- What may have led to a call of a dispatch. -/
inductive Made (interpreter : Interpreter σ) (line : Line) : Call → Prop where
  | invoked {target : Target σ} {matched : OperationMatch σ} {call : Call}
      (chosen : Target.chosen? interpreter.components line = some target)
      (member : matched ∈ target.operations)
      (invokes : Invokes interpreter target.arguments call matched) : Made interpreter line call
  | written {target : Target σ} {matched : PropertyMatch σ} {call : Call}
      (chosen : Target.chosen? interpreter.components line = some target)
      (member : matched ∈ target.properties)
      (writes : Writes interpreter target.arguments.head? call matched) :
      Made interpreter line call
  /-- A state dump asks for a result. -/
  | reported {owner : Component σ} {matched : OperationMatch σ} {call : Call}
      (known : owner ∈ (Component.walk interpreter.components).map Prod.snd)
      (member : matched ∈ reporters owner)
      (invokes : Invokes interpreter [] call matched) : Made interpreter line call

variable {interpreter : Interpreter σ} {run last : Run σ}

/-- Each call is of one of the targets. -/
theorem exists_target_of_mem {α : Type} {of : Call → α → Prop} {made : List Call}
    {targets : List α} (within : List.SublistForall₂ of made targets) :
    ∀ call ∈ made, ∃ target ∈ targets, of call target := by
  intro call member
  induction within with
  | nil => cases member
  | cons holds _ inductionHypothesis =>
      rcases List.mem_cons.mp member with rfl | later
      · exact ⟨_, List.mem_cons_self, holds⟩
      · obtain ⟨target, among, holdsLater⟩ := inductionHypothesis later
        exact ⟨target, List.mem_cons_of_mem _ among, holdsLater⟩
  | cons_right _ inductionHypothesis =>
      obtain ⟨target, among, holds⟩ := inductionHypothesis member
      exact ⟨target, List.mem_cons_of_mem _ among, holds⟩

/-- The calls of carrying out the chosen target. -/
theorem made_of_perform {line : Line} {target : Target σ}
    (chosen : Target.chosen? interpreter.components line = some target) (run : Run σ) :
    ∃ made, (interpreter.perform target.resolution run).2.calls = run.calls ++ made ∧
      ∀ call ∈ made, Made interpreter line call := by
  have ran : ResolutionRun interpreter target.resolution run _
      (interpreter.perform target.resolution run).2 := resolutionRun_of_perform rfl
  obtain ⟨middle, ⟨handlers, called, invoked⟩, ⟨writes, calledLater, written⟩⟩ := ran.makes
  refine ⟨handlers ++ writes, by rw [calledLater, called, List.append_assoc], ?_⟩
  intro call member
  rcases List.mem_append.mp member with handler | write
  · obtain ⟨matched, among, invokes⟩ := exists_target_of_mem invoked call handler
    exact .invoked chosen among invokes
  · obtain ⟨matched, among, writes⟩ := exists_target_of_mem written call write
    exact .written chosen among writes

/-- The calls of a state dump. -/
theorem made_of_stateEntries (interpreter : Interpreter σ) (line : Line) (run : Run σ) :
    ∃ made, (interpreter.stateEntries run).2.calls = run.calls ++ made ∧
      ∀ call ∈ made, Made interpreter line call := by
  obtain ⟨made, called, invoked⟩ :=
    interpreter.makes_collect (Component.walk interpreter.components) run
  refine ⟨made, called, fun call member => ?_⟩
  obtain ⟨matched, among, invokes⟩ := exists_target_of_mem invoked call member
  obtain ⟨entry, walked, reported⟩ := List.mem_flatMap.mp among
  exact .reported (List.mem_map_of_mem walked) reported invokes

theorem made_of_dispatchLine (interpreter : Interpreter σ) (line : Line) (run : Run σ) :
    ∃ made, (interpreter.dispatchLine line run).2.calls = run.calls ++ made ∧
      ∀ call ∈ made, Made interpreter line call := by
  have nothing : ∃ made, run.calls = run.calls ++ made ∧
      ∀ call ∈ made, Made interpreter line call := ⟨[], by simp⟩
  unfold dispatchLine
  cases Builtin.ofLine? line with
  | some builtin =>
      cases builtin with
      | help | questionMark | getCommands => exact nothing
      | state | getState | getJsonState => exact made_of_stateEntries interpreter line run
  | none =>
      dsimp only
      rw [Target.ofLine?_eq_chosen?]
      cases chosen : Target.chosen? interpreter.components line with
      | some target => exact made_of_perform chosen run
      | none => exact nothing

/-- Neither the interpreter nor any component has converters of its own. -/
structure WithoutConverters (interpreter : Interpreter σ) : Prop where
  named : interpreter.converters = []
  operations : ∀ owner ∈ (Component.walk interpreter.components).map Prod.snd,
    ∀ operation ∈ owner.operations, operation.converter? = none
  properties : ∀ owner ∈ (Component.walk interpreter.components).map Prod.snd,
    ∀ property ∈ owner.properties, property.converter? = none

theorem WithoutConverters.converter? (without : interpreter.WithoutConverters) (name : Text) :
    interpreter.converter? name = none := by
  rw [Interpreter.converter?, without.named, List.lookup_nil]

/-- Arguments that are converted for all parameters are of their kinds. -/
theorem Converts.typed {operation : Operation σ} {arguments : List Text} {values : List Value}
    (without : interpreter.WithoutConverters) (own : operation.converter? = none)
    (count : operation.parameters.length = arguments.length)
    (converts : interpreter.Converts operation (arguments.zip operation.parameters) values) :
    List.Forall₂ (fun parameter argument => parameter.kind.Admits argument)
      operation.parameters values := by
  have each : List.Forall₂ (fun argument value => argument.2.kind.Admits value)
      (arguments.zip operation.parameters) values := by
    refine converts.imp fun argument value converted => ?_
    rw [convertArgument, own, without.converter?] at converted
    exact Kind.admits_of_convert converted
  have parameters : (arguments.zip operation.parameters).map Prod.snd = operation.parameters :=
    List.map_snd_zip count.le
  rw [← parameters]
  exact List.forall₂_map_left_iff.mpr each

/-- Whatever led to it, a call has values of the declared kinds. -/
theorem Made.typed {line : Line} {call : Call} (without : interpreter.WithoutConverters)
    (made : Made interpreter line call) :
    call.Typed ((Component.walk interpreter.components).map Prod.snd) := by
  cases made with
  | @invoked target matched _ chosen member invokes =>
      obtain ⟨owned, found, _, count⟩ := Target.spec_of_mem_operations member
      have known := (Target.owners_sublist_walk_of_chosen? chosen).subset owned
      have own := without.operations _ known _ (List.mem_of_getElem? found)
      cases invokes with
      | handler converts => exact .handler known found (converts.typed without own count)
  | @written target matched _ chosen member writes =>
      obtain ⟨owned, found⟩ := Target.spec_of_mem_properties member
      have known := (Target.owners_sublist_walk_of_chosen? chosen).subset owned
      have own := without.properties _ known _ (List.mem_of_getElem? found)
      cases writes with
      | setter given converted =>
          rw [own, without.converter?] at converted
          exact .setter known found (Kind.admits_of_convert converted)
      | merge given converted =>
          rw [own, without.converter?] at converted
          exact .merge known found (Kind.admits_of_convert converted)
  | @reported owner matched _ known member invokes =>
      obtain ⟨⟨operation, place⟩, kept, rfl⟩ := List.mem_map.mp member
      obtain ⟨numbered, asked⟩ := List.mem_filter.mp kept
      have found : owner.operations[place]? = some operation :=
        List.mem_zipIdx_iff_getElem?.mp numbered
      have own := without.operations _ known _ (List.mem_of_getElem? found)
      simp only [Bool.and_eq_true, List.isEmpty_iff] at asked
      have count : operation.parameters.length = ([] : List Text).length := by rw [asked.2]; rfl
      cases invokes with
      | handler converts => exact .handler known found (converts.typed without own count)

/-- In a registry without converters, whatever the line and the state: every handler that a dispatch
calls gets as many values as its operation has parameters, each of the kind of its parameter, and
every setter or merge gets a value of the kind of its property. -/
theorem dispatch_calls_typed (interpreter : Interpreter σ)
    (without : interpreter.WithoutConverters) (input : Text) (run : Run σ) :
    ∃ made, (interpreter.dispatch input run).2.calls = run.calls ++ made ∧
      ∀ call ∈ made, call.Typed ((Component.walk interpreter.components).map Prod.snd) := by
  obtain ⟨made, called, led⟩ := made_of_dispatchLine interpreter (Line.parse input) run
  exact ⟨made, called, fun call member => (led call member).typed without⟩

/-- One component that blends channels by weight. -/
def blender : Interpreter Unit where
  components :=
    [{ identity := 0
       name := "Blender"
       operations := [{
        name := "Blend"
        parameters := [⟨"weight", .int⟩, ⟨"channels", .list (.list .int)⟩]
        handler := fun _ _ state => (.ok .null, state) }] }]

/-- The weight is written as a double, and one of the lists and one of its items are strings that
have to be read once more. -/
theorem dispatch_calls_typed_blender :
    let calls := (blender.dispatch "Blend:7.0,[\"[1,\\\"2\\\"]\",[3]]" { state := () }).2.calls
    blender.WithoutConverters ∧
      calls = [.handler 0 0 [.ofInt 7,
        .array [.array [.ofInt 1, .ofInt 2], .array [.ofInt 3]]]] ∧
      ∀ call ∈ calls, call.Typed ((Component.walk blender.components).map Prod.snd) := by
  intro calls
  have without : blender.WithoutConverters := by
    constructor <;> simp [Component.walk, Component.visit, Component.childAgenda, blender]
  obtain ⟨made, called, typed⟩ := blender.dispatch_calls_typed without
    "Blend:7.0,[\"[1,\\\"2\\\"]\",[3]]" { state := () }
  have all : calls = made := called
  refine ⟨without, by decide +kernel, ?_⟩
  rwa [all]

end Interpreter

end CommandLink
