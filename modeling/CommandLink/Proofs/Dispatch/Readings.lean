import CommandLink.Proofs.Dispatch.Directory
import CommandLink.Proofs.Dispatch.RoundTrip
import CommandLink.Proofs.Line.Printing

/-!
# Two ways to read a property

A condition of a guard reads a property at a dotted path below the component of the guard. A request
reads it with a line that begins at the name of a registered component. The first follows the names
down from one component, the second looks for all that the names may lead to, and yet both come to the
same property: the first of those that answer to the last name (`dispatch_read`).
-/

namespace CommandLink

variable {σ : Type}

namespace Component

/-- A dotted path leads through the children of a component to an owner, and its last segment to the
first property there that answers to it. The state of the device plays no part in this. -/
structure LeadsTo (root : Component σ) (path : Text) (owner : Component σ) (name : Text)
    (property : Property σ) : Prop where
  descends : ∃ chain, (path.splitOn '.').map Text.trim = chain ++ [name] ∧
    root.descend chain = some owner
  first : owner.property? name = some property

variable {root owner : Component σ} {path name : Text} {property : Property σ} {state : σ}

/-- What is read at a path is the value of the property that it leads to. -/
theorem LeadsTo.read_eq (leads : root.LeadsTo path owner name property) (state : σ) :
    root.read state path = (property.get state).toOption := by
  obtain ⟨chain, segments, descends⟩ := leads.descends
  simp [read, segments, descends, leads.first]

/-- A path leads to one property at most. -/
theorem LeadsTo.unique {other : Component σ} {otherName : Text} {otherProperty : Property σ}
    (leads : root.LeadsTo path owner name property)
    (leadsOther : root.LeadsTo path other otherName otherProperty) :
    other = owner ∧ otherName = name ∧ otherProperty = property := by
  obtain ⟨⟨chain, segments, descends⟩, first⟩ := leads
  obtain ⟨⟨otherChain, otherSegments, otherDescends⟩, otherFirst⟩ := leadsOther
  obtain ⟨rfl, sameName⟩ := List.append_inj' (otherSegments.symm.trans segments) rfl
  obtain rfl := List.singleton_inj.mp sameName
  obtain rfl := Option.some.inj (otherDescends.symm.trans descends)
  exact ⟨rfl, rfl, Option.some.inj (otherFirst.symm.trans first)⟩

theorem exists_leadsTo_of_read {value : Value} (readable : root.read state path = some value) :
    ∃ owner name property, root.LeadsTo path owner name property ∧
      property.get state = .ok value := by
  have filled : (path.splitOn '.').map Text.trim ≠ [] := by
    simp [List.splitOn_ne_nil]
  have segments := (List.dropLast_append_getLast filled).symm
  have last : ((path.splitOn '.').map Text.trim).getLast? = some _ :=
    List.getLast?_eq_some_getLast filled
  simp only [read, last, Option.getD_some] at readable
  split at readable
  case h_1 => cases readable
  case h_2 owner descends =>
    split at readable
    case h_1 => cases readable
    case h_2 property first =>
      refine ⟨owner, _, property, ⟨⟨_, segments, descends⟩, first⟩, ?_⟩
      cases got : property.get state with
      | error fault => simp [got, Except.toOption] at readable
      | ok shown => simpa [got, Except.toOption] using readable

/-- A component is registered, and no other one of its name is. -/
def Alone (components : List (Component σ)) (root : Component σ) : Prop :=
  ∃ before after, components = before ++ root :: after ∧
    ∀ other ∈ before ++ after, Text.sameName other.name root.name = false

namespace Alone

variable {components : List (Component σ)}

theorem filter_eq (alone : Alone components root) :
    (components.filter fun component => Text.sameName component.name root.name) = [root] := by
  obtain ⟨before, after, rfl, others⟩ := alone
  rw [List.forall_mem_append] at others
  have none {list : List (Component σ)}
      (apart : ∀ other ∈ list, Text.sameName other.name root.name = false) :
      (list.filter fun component => Text.sameName component.name root.name) = [] := by
    rw [List.filter_eq_nil_iff]
    intro other member
    simp [apart other member]
  have itself : Text.sameName root.name root.name = true := beq_self_eq_true _
  simp only [List.filter_append, List.filter_cons, itself, if_true, none others.1, none others.2,
    List.nil_append]

/-- A chain of names that begins with the component's leads to what it leads to from there. -/
theorem qualifiedOwners_eq (alone : Alone components root) {chain : List Text}
    (descends : root.descend chain = some owner) :
    qualifiedOwners components (root.name :: chain) = [owner] := by
  simp [qualifiedOwners, alone.filter_eq, descends]

end Alone

end Component

namespace Line

variable {chain : List Text} {name path : Text} {arguments? : Option (List Text)}

@[simp] theorem qualifiers_concat : qualifiers ⟨chain ++ [name], arguments?⟩ = chain :=
  List.dropLast_concat

@[simp] theorem name_concat : Line.name ⟨chain ++ [name], arguments?⟩ = name := by
  simp [Line.name]

/-- A path of proper segments behind a name, taken apart. -/
theorem parse_below (isName : IsName name)
    (proper : ∀ segment ∈ path.splitOn '.', IsName segment) :
    parse (name ++ '.' :: path) = ⟨name :: path.splitOn '.', none⟩ := by
  have whole : Text.join ['.'] (path.splitOn '.') = path := List.intercalate_splitOn '.'
  have parsed := parse_join (List.forall_mem_cons.mpr ⟨isName, proper⟩)
  rw [Text.join_cons _ _ (List.splitOn_ne_nil '.' path), whole] at parsed
  simpa using parsed

end Line

/-- A line that begins at the name of the only component of that name is first read as being of what
the rest of its path leads to from there. -/
theorem Component.Alone.exists_candidates_eq {components : List (Component σ)}
    {root owner : Component σ} {chain : List Text} (alone : Component.Alone components root)
    (descends : root.descend chain = some owner) (name : Text) (arguments? : Option (List Text)) :
    ∃ later, Target.candidates components ⟨(root.name :: chain) ++ [name], arguments?⟩ =
      ⟨[owner], name, arguments?.getD []⟩ :: later := by
  let line : Line := ⟨(root.name :: chain) ++ [name], arguments?⟩
  have found : addressed components line.qualifiers = [owner] := by
    rw [Line.qualifiers_concat]
    exact alone.qualifiedOwners_eq descends
  obtain ⟨later, listed⟩ :=
    Target.exists_candidates_eq (List.cons_ne_nil _ _) (found ▸ List.cons_ne_nil _ _)
  rw [found, Line.name_concat] at listed
  exact ⟨later, listed⟩

namespace Target

variable {target : Target σ} {owner : Component σ} {property : Property σ}

/-- No operation of the owner answers to the command with that many arguments. -/
theorem operations_eq_nil
    (silent : ∀ owner ∈ target.owners, ∀ operation ∈ owner.operations,
      operation.answers target.command = true →
        operation.parameters.length ≠ target.arguments.length) : target.operations = [] := by
  refine List.eq_nil_iff_forall_not_mem.mpr fun matched member => ?_
  obtain ⟨owned, found, answers, arity⟩ := spec_of_mem_operations member
  exact silent _ owned _ (List.mem_of_getElem? found) answers arity

/-- The first property that is matched to be read is the first that answers to the command. -/
theorem exists_properties_eq_cons (sole : target.owners = [owner])
    (noArgument : target.arguments = []) (first : owner.property? target.command = some property) :
    ∃ matched later, target.properties = matched :: later ∧ matched.property = property := by
  have few : target.arguments.length ≤ 1 := by simp [noArgument]
  have all : target.properties = target.propertiesOf owner := by simp [properties, sole]
  have head : (target.properties.map (·.property)).head? = some property := by
    rw [all, map_property_propertiesOf few, noArgument, ← first]
    simp [Component.property?]
  obtain ⟨later, shape⟩ := List.head?_eq_some_iff.mp head
  obtain ⟨matched, others, listed, same, _⟩ := List.map_eq_cons_iff.mp shape
  exact ⟨matched, others, listed, same⟩

end Target

namespace Interpreter

/-- Reading properties shows each of them as it is, and changes nothing. -/
theorem runProperties_none (interpreter : Interpreter σ) (targets : List (PropertyMatch σ))
    (run : Run σ) :
    interpreter.runProperties none targets run =
      (targets.map fun target => ⟨target.property.name, showProperty target.property run.state⟩,
        run) := by
  induction targets with
  | nil => rfl
  | cons target targets inductionHypothesis =>
      simp only [runProperties, inductionHypothesis, List.map_cons]

/-- A target that is properties to be read. Their guards are in the way of writing only. -/
theorem perform_read (interpreter : Interpreter σ) {target : Target σ}
    (noOperation : target.operations = []) (noArgument : target.arguments = []) (run : Run σ) :
    interpreter.perform target.resolution run =
      (target.properties.map fun matched =>
        ⟨matched.property.name, showProperty matched.property run.state⟩, run) := by
  have calm : ¬ target.Tripped run.state := by
    simp [Target.Tripped, noOperation, noArgument]
  rw [interpreter.perform_properties noOperation calm, noArgument, List.head?_nil,
    runProperties_none]

/-- What a guard reads at a path below a component is what a request for the same path behind the
name of the component reports, if no other registered component has that name. The guard sees the
value of a certain property, whatever the state, and the first outcome of the request shows the value
of that property, provided that no output conversion and no operation without parameters come before
it. The request changes nothing. -/
theorem dispatch_read (interpreter : Interpreter σ) {root : Component σ} {path : Text} {run : Run σ}
    {value : Value} (alone : Component.Alone interpreter.components root)
    (isName : Line.IsName root.name) (proper : ∀ segment ∈ path.splitOn '.', Line.IsName segment)
    (readable : root.read run.state path = some value) :
    ∃ owner name property, root.LeadsTo path owner name property ∧
      (∀ state, root.read state path = (property.get state).toOption) ∧
      (∀ operator expected, (Guard.ofCondition path operator expected).trips (root.read run.state) =
        operator.accepts (value.order expected)) ∧
      (property.output? = none →
        (∀ operation ∈ owner.operations, operation.answers name = true →
          operation.parameters ≠ []) →
        ∃ later, interpreter.dispatch (root.name ++ '.' :: path) run =
          (⟨property.name, .ok (property.name ++ ':' :: value.render)⟩ :: later, run)) := by
  obtain ⟨owner, name, property, leads, got⟩ := Component.exists_leadsTo_of_read readable
  refine ⟨owner, name, property, leads, leads.read_eq, ?_, ?_⟩
  · intro operator expected
    simp [Guard.trips, Guard.ofCondition, Condition.holds, readable]
  intro unconverted silent
  obtain ⟨chain, segments, descends⟩ := leads.descends
  rw [Text.map_trim_eq_self fun segment member => (proper segment member).trimmed] at segments
  have parsed := Line.parse_below isName proper
  rw [segments, ← List.cons_append] at parsed
  obtain ⟨others, listed⟩ := alone.exists_candidates_eq descends name none
  let target : Target σ := ⟨[owner], name, []⟩
  have noOperation : target.operations = [] := by
    refine Target.operations_eq_nil ?_
    simpa [target] using silent
  have sole : target.owners = [owner] := rfl
  obtain ⟨matched, later, properties, rfl⟩ :=
    Target.exists_properties_eq_cons sole rfl leads.first
  have reached : target.Matches := .inr (properties ▸ List.cons_ne_nil _ _)
  have ordinary : Builtin.ofLine? ⟨(root.name :: chain) ++ [name], none⟩ = none := by
    cases chain <;> rfl
  rw [Option.getD_none, ← List.nil_append (_ :: others)] at listed
  have dispatched := interpreter.dispatchLine_eq_perform ordinary listed (by simp) reached run
  have shown : showProperty matched.property run.state =
      .ok (matched.property.name ++ ':' :: value.render) := by
    simp [showProperty, Property.shown, got, unconverted]
  rw [interpreter.perform_read noOperation rfl, properties, List.map_cons, shown] at dispatched
  exact ⟨_, by rw [dispatch, parsed, dispatched]⟩

/-- A gantry with two lenses of one name. Each can be locked, and the first has a second property that
is called like the short name of the lock. -/
def gantry : Interpreter (Bool × Bool) where
  components :=
    let flag (name : Text) (aliases : List Text) (get : Bool × Bool → Bool) :
        Property (Bool × Bool) :=
      { name, aliases, kind := .bool, access := .scalar (fun state => .ok (.bool (get state))) none }
    [{ identity := 0, name := "Lens" },
      { identity := 1
        name := "Gantry"
        children :=
          [{ identity := 2
             name := "Lens"
             operations :=
              [{ name := "L", parameters := [⟨"side", .string⟩]
                 handler := fun _ _ state => (.ok .null, state) }]
             properties := [flag "Locked" ["L"] Prod.fst, flag "L" [] Prod.snd] },
            { identity := 3
              name := "LENS"
              properties := [flag "L" [] Prod.snd] }] }]

/-- The guard and the request take the same one of the three properties. -/
theorem dispatch_read_gantry :
    let run : Run (Bool × Bool) := { state := (true, false) }
    ∃ root ∈ gantry.components, root.read run.state "lens.l" = some (.bool true) ∧
      (Guard.ofCondition "lens.l" .eq (.bool true)).trips (root.read run.state) = true ∧
      ∃ later, gantry.dispatch "Gantry.lens.l" run =
        (⟨"Locked", .ok "Locked:true"⟩ :: later, run) := by
  intro run
  let root := gantry.components[1]
  have alone : Component.Alone gantry.components root := by
    refine ⟨[gantry.components[0]], [], rfl, ?_⟩
    simp only [List.append_nil, List.forall_mem_singleton]
    decide
  have isName : Line.IsName root.name := ⟨by decide, by decide, by decide, by decide⟩
  have proper : ∀ segment ∈ ("lens.l" : Text).splitOn '.', Line.IsName segment := by
    have cut : ("lens.l" : Text).splitOn '.' = ["lens".toList, "l".toList] := by decide
    simp only [cut, List.forall_mem_cons, List.not_mem_nil, false_implies, implies_true, and_true]
    exact ⟨⟨by decide, by decide, by decide, by decide⟩,
      ⟨by decide, by decide, by decide, by decide⟩⟩
  have readable : root.read run.state "lens.l" = some (.bool true) := by decide
  obtain ⟨owner, name, property, leads, _, guarded, reported⟩ :=
    gantry.dispatch_read alone isName proper readable
  have expected :
      root.LeadsTo "lens.l" root.children[0] "l" root.children[0].properties[0] :=
    ⟨⟨["lens"], by decide, rfl⟩, rfl⟩
  obtain ⟨rfl, rfl, rfl⟩ := expected.unique leads
  have silent : ∀ operation ∈ root.children[0].operations, operation.answers "l" = true →
      operation.parameters ≠ [] := by
    simp only [root, gantry, List.getElem_cons_succ, List.getElem_cons_zero,
      List.forall_mem_singleton]
    decide
  exact ⟨root, by simp [root], readable, guarded .eq (.bool true), reported rfl silent⟩

end Interpreter

end CommandLink
