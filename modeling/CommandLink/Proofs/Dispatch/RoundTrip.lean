import CommandLink.Component.Cell
import CommandLink.Proofs.Dispatch.Arguments
import CommandLink.Proofs.Line.Values

/-!
# What is written is read back

A property whose value is kept in a cell, with nothing in between, and whose name leads to nothing
else. Writing the JSON text of a value of its kind stores that value and no other, and reading the
property afterwards answers the same and changes nothing (`interpret_write_then_read`).
-/

namespace CommandLink

variable {σ : Type}

/-- A property is read from a cell and written to it, with nothing in between. -/
structure Property.Direct (property : Property σ) (cell : Cell σ Value) : Prop where
  access : property.access = .scalar (fun state => .ok (cell.read state))
    (some fun value state => (.ok (), cell.write value state))
  converter : property.converter? = none
  output : property.output? = none
  unguarded : property.guards = []
  writable : property.privateSet = false

namespace Property.Direct

variable {property : Property σ} {cell : Cell σ Value}

theorem remotelySettable (direct : property.Direct cell) : property.remotelySettable = true := by
  simp [Property.remotelySettable, settability, direct.access, direct.writable]

theorem showProperty_eq (direct : property.Direct cell) (state : σ) :
    Interpreter.showProperty property state =
      .ok (property.name ++ ':' :: (cell.read state).render) := by
  simp [Interpreter.showProperty, shown, Property.get, direct.access, direct.output]

end Property.Direct

/-- A property is all that its name leads to among some components. -/
structure Property.Sole (property : Property σ) (components : List (Component σ)) : Prop where
  isName : Line.IsName property.name
  ordinary : Builtin.named? property.name = none
  properties : (components.flatMap fun owner => owner.properties.filter (·.answers property.name)) =
    [property]
  noOperation : ∀ owner ∈ components, ∀ operation ∈ owner.operations,
    operation.answers property.name = false

namespace Target

/-- The properties of an owner that a target with at most one argument matches. -/
theorem map_property_propertiesOf {target : Target σ} (few : target.arguments.length ≤ 1)
    (owner : Component σ) : (target.propertiesOf owner).map (·.property) =
      (owner.properties.filter (·.answers target.command)).filter fun property =>
        target.arguments.isEmpty || property.remotelySettable := by
  have numbers : owner.properties.zipIdx.map Prod.fst = owner.properties :=
    List.zipIdx_map_fst 0 owner.properties
  rw [propertiesOf, if_neg (Nat.not_lt.mpr few), List.map_map, List.filter_filter]
  nth_rewrite 2 [← numbers]
  rw [List.filter_map]
  simp only [Function.comp_def, Bool.and_comm]

variable {property : Property σ} {components : List (Component σ)} {arguments : List Text}

/-- No operation answers to the name of a sole property. -/
theorem operations_of_sole (sole : property.Sole components) :
    (Target.mk components property.name arguments).operations = [] := by
  refine List.eq_nil_iff_forall_not_mem.mpr fun matched member => ?_
  obtain ⟨owned, found, answers, _⟩ := spec_of_mem_operations member
  have unanswered := sole.noOperation _ owned _ (List.mem_of_getElem? found)
  rw [answers] at unanswered
  cases unanswered

/-- The name of a sole property leads to that property. -/
theorem exists_properties_of_sole (sole : property.Sole components)
    (settable : property.remotelySettable = true) (few : arguments.length ≤ 1) :
    ∃ owner ∈ components, ∃ place, owner.properties[place]? = some property ∧
      (Target.mk components property.name arguments).properties = [⟨owner, place, property⟩] := by
  let target : Target σ := ⟨components, property.name, arguments⟩
  have alone : target.properties.map (·.property) = [property] := calc
    target.properties.map (·.property)
      = components.flatMap fun owner => (target.propertiesOf owner).map (·.property) :=
        List.map_flatMap
    _ = (components.flatMap fun owner => owner.properties.filter
          (·.answers property.name)).filter fun property =>
            arguments.isEmpty || property.remotelySettable := by
        have fewArguments : target.arguments.length ≤ 1 := few
        simp only [map_property_propertiesOf fewArguments, List.filter_flatMap, target]
    _ = [property] := by
        rw [sole.properties, List.filter_singleton]
        simp [settable]
  obtain ⟨⟨owner, place, other⟩, only, same⟩ := List.map_eq_singleton_iff.mp alone
  obtain rfl : property = other := same.symm
  have member : ⟨owner, place, property⟩ ∈ target.properties := only ▸ List.mem_singleton_self _
  obtain ⟨owned, found⟩ := spec_of_mem_properties member
  exact ⟨owner, owned, place, found, only⟩

end Target

namespace Interpreter

variable {interpreter : Interpreter σ} {property : Property σ} {cell : Cell σ Value}
  {arguments? : Option (List Text)}

/-- A target that is one property, which nothing guards. -/
theorem perform_property {target : Target σ} {matched : PropertyMatch σ}
    (noOperation : target.operations = []) (only : target.properties = [matched])
    (unguarded : matched.property.guards = []) (run : Run σ) :
    interpreter.perform target.resolution run =
      interpreter.runProperties target.arguments.head? [matched] run := by
  have calm : ¬ target.Tripped run.state := by
    simp [Target.Tripped, noOperation, only, unguarded]
  rw [interpreter.perform_properties noOperation calm, only]

/-- A line with a name alone, or with a name and one argument, is of the sole property of that
name. -/
theorem dispatchLine_of_sole (sole : property.Sole interpreter.components)
    (settable : property.remotelySettable = true) (unguarded : property.guards = [])
    (few : (arguments?.getD []).length ≤ 1) :
    ∃ owner ∈ interpreter.components, ∃ place, owner.properties[place]? = some property ∧
      ∀ run, interpreter.dispatchLine ⟨[property.name], arguments?⟩ run =
        interpreter.runProperties (arguments?.getD []).head? [⟨owner, place, property⟩] run := by
  obtain ⟨owner, owned, place, found, only⟩ :=
    Target.exists_properties_of_sole sole settable few
  refine ⟨owner, owned, place, found, fun run => ?_⟩
  let target : Target σ := ⟨interpreter.components, property.name, arguments?.getD []⟩
  have ordinary : Builtin.ofLine? ⟨[property.name], arguments?⟩ = none := by
    cases arguments? with
    | none => exact sole.ordinary
    | some _ => rfl
  have listed : Target.candidates interpreter.components ⟨[property.name], arguments?⟩ =
      [target] := rfl
  have matched : target.Matches := .inr (only ▸ List.cons_ne_nil _ _)
  rw [interpreter.dispatchLine_eq_tryTargets ordinary, listed]
  simp only [interpreter.tryTargets_cons matched]
  exact perform_property (Target.operations_of_sole sole) only unguarded run

/-- The answer to a line with one outcome, which is a success. -/
theorem interpret_of_dispatch {input command message : Text} {run last : Run σ}
    (dispatched : interpreter.dispatch input run = ([⟨command, .ok message⟩], last)) :
    interpreter.interpret input run =
      (⟨true, message⟩, [⟨command, .ok message⟩], last) := by
  simp [interpret, dispatched, Answer.ofOutcomes, Text.join, Outcome.isOk, Outcome.message,
    Except.isOk, Except.toBool]

/-- Writing the text of a value of the kind stores that value. -/
theorem setProperty_of_direct (direct : property.Direct cell)
    (unnamed : interpreter.converter? property.name = none) {value : Value}
    (admits : property.kind.Admits value) (distinct : property.kind.HasDistinctVariants)
    (reads : Value.read? value.compact = some value) (owner : Component σ) (place : Nat)
    (run : Run σ) :
    interpreter.setProperty ⟨owner, place, property⟩ value.compact run =
      (.ok (property.name ++ ':' :: value.render),
        { run with
          state := cell.write value run.state
          calls := run.calls ++ [.setter owner.identity place value] }) := by
  have converted : Kind.convert none none value.compact property.kind = .ok value := by
    simp [Kind.convert, reads, admits.fit?_eq distinct]
  simp [setProperty, direct.converter, unnamed, converted, store, direct.access,
    direct.showProperty_eq, cell.read_write]

/-- Writing the text of a value of its kind to a property succeeds, whatever the state: it stores
exactly that value, changes nothing else and shows it, and reading the property right afterwards
answers the same and changes nothing. -/
theorem interpret_write_then_read (interpreter : Interpreter σ) (direct : property.Direct cell)
    (sole : property.Sole interpreter.components)
    (unnamed : interpreter.converter? property.name = none) {value : Value}
    (admits : property.kind.Admits value) (distinct : property.kind.HasDistinctVariants)
    (reads : Value.read? value.compact = some value) (run : Run σ) :
    let message := property.name ++ ':' :: value.render
    ∃ owner ∈ interpreter.components, ∃ place, owner.properties[place]? = some property ∧
      let stored : Run σ :=
        { run with
          state := cell.write value run.state
          calls := run.calls ++ [.setter owner.identity place value] }
      interpreter.interpret (property.name ++ ':' :: value.compact) run =
          (⟨true, message⟩, [⟨property.name, .ok message⟩], stored) ∧
        cell.read stored.state = value ∧
        interpreter.interpret property.name stored =
          (⟨true, message⟩, [⟨property.name, .ok message⟩], stored) := by
  intro message
  have settable := direct.remotelySettable
  have written : ((some [value.compact]).getD []).length ≤ 1 := le_rfl
  have shown : ((none : Option (List Text)).getD []).length ≤ 1 := Nat.zero_le 1
  obtain ⟨owner, owned, place, found, writes⟩ :=
    dispatchLine_of_sole sole settable direct.unguarded written
  obtain ⟨_, _, _, _, reading⟩ := dispatchLine_of_sole sole settable direct.unguarded shown
  refine ⟨owner, owned, place, found, ?_⟩
  intro stored
  refine ⟨interpret_of_dispatch ?_, cell.read_write value run.state, interpret_of_dispatch ?_⟩
  · rw [dispatch, Line.parse_assignment sole.isName (Option.isSome_of_eq_some reads), writes]
    simp [runProperties, setProperty_of_direct direct unnamed admits distinct reads, message,
      stored]
  · rw [dispatch, Line.parse_name sole.isName, reading]
    simp [runProperties, direct.showProperty_eq, stored, cell.read_write, message]

/-- The notes on a board, beside the number of times that it was wiped. -/
def notesCell : Cell (Value × Nat) Value where
  read := Prod.fst
  write notes board := (notes, board.2)
  read_write _ _ := rfl

/-- The notes as a property. -/
def notes : Property (Value × Nat) where
  name := "Notes"
  kind := .list .string
  access := .scalar (fun board => .ok (notesCell.read board))
    (some fun value board => (.ok (), notesCell.write value board))

/-- One board. -/
def pinboard : Interpreter (Value × Nat) where
  components :=
    [{ identity := 0
       name := "Board"
       operations := [.action "Wipe" fun _ _ board => (.ok (), (.array [], board.2 + 1))]
       properties := [notes] }]

/-- The notes are full of characters that cut lines elsewhere. -/
theorem interpret_write_then_read_pinboard :
    let value : Value := .array [.string "a,b:\"c\".[d]", .string "]\\,"]
    let message : Text := "Notes:[\"a,b:\\\"c\\\".[d]\",\"]\\\\,\"]"
    let before : Run (Value × Nat) := { state := (.array [], 3) }
    let stored : Run (Value × Nat) := { state := (value, 3), calls := [.setter 0 0 value] }
    pinboard.interpret message before = (⟨true, message⟩, [⟨"Notes", .ok message⟩], stored) ∧
      pinboard.interpret "Notes" stored = (⟨true, message⟩, [⟨"Notes", .ok message⟩], stored) := by
  intro value message before stored
  have direct : notes.Direct notesCell := ⟨rfl, rfl, rfl, rfl, rfl⟩
  have isName : Line.IsName notes.name := ⟨by decide, by decide, by decide, by decide⟩
  have noOperation : ∀ owner ∈ pinboard.components, ∀ operation ∈ owner.operations,
      operation.answers notes.name = false := by
    simp only [pinboard, List.forall_mem_singleton]
    rfl
  have sole : notes.Sole pinboard.components := ⟨isName, by decide, rfl, noOperation⟩
  have admits : notes.kind.Admits value := .list <| by
    simpa [value] using ⟨.string _, .string _⟩
  have reads : Value.read? value.compact = some value := by decide +kernel
  have assignment : notes.name ++ ':' :: value.compact = message := by decide +kernel
  have rendered : notes.name ++ ':' :: value.render = message := assignment
  obtain ⟨owner, owned, place, found, wrote, _, read⟩ :=
    pinboard.interpret_write_then_read direct sole rfl admits trivial reads before
  obtain rfl := List.mem_singleton.mp owned
  obtain rfl : place = 0 := Nat.lt_one_iff.mp (List.getElem?_eq_some_iff.mp found).1
  rw [assignment, rendered] at wrote
  rw [rendered] at read
  exact ⟨wrote, read⟩

end Interpreter

end CommandLink
