import CommandLink.Interpreter.Dispatch
import CommandLink.Proofs.Component.Walk
import CommandLink.Proofs.Dispatch.Calls
import Mathlib.Data.List.Flatten
import Mathlib.Data.List.Nodup

/-!
# Repeated calls

How often one dispatch calls the same operation, or writes the same property: no more often than the
line leads to the component that has it (`dispatch_calls_count_le`). A component that hangs in one
place only is led to once. One that hangs below several others may be led to from each of them, and
then its handlers run again (`sharedLens_calls_twice`).
-/

namespace CommandLink

variable {σ : Type}

/-- The operation that a call invokes: the identity of its owner, and its place there. -/
def Call.operation? : Call → Option (Nat × Nat)
  | .handler owner place _ => some (owner, place)
  | .setter .. | .merge .. => none

/-- The property that a call writes: the identity of its owner, and its place there. -/
def Call.property? : Call → Option (Nat × Nat)
  | .handler .. => none
  | .setter owner place _ | .merge owner place _ => some (owner, place)

/-- What tells the operation of a match from all others. -/
def OperationMatch.key (matched : OperationMatch σ) : Nat × Nat :=
  (matched.owner.identity, matched.place)

/-- What tells the property of a match from all others. -/
def PropertyMatch.key (matched : PropertyMatch σ) : Nat × Nat :=
  (matched.owner.identity, matched.place)

namespace Component

/-- The keys of as many members of a component. -/
def keys (component : Component σ) (count : Nat) : List (Nat × Nat) :=
  (List.range count).map fun place => (component.identity, place)

/-- Members that are picked from a component have some of its keys, in their order. -/
theorem keys_of_filter_sublist {α : Type} (component : Component σ) (members : List α)
    (keep : α × Nat → Bool) :
    ((members.zipIdx.filter keep).map fun member => (component.identity, member.2)).Sublist
      (component.keys members.length) := by
  have numbered : component.keys members.length =
      members.zipIdx.map fun member => (component.identity, member.2) := by
    rw [keys, List.range_eq_range', ← List.zipIdx_map_snd, List.map_map]
    rfl
  rw [numbered]
  exact List.filter_sublist.map _

/-- A component has every key once, and no key of another identity. -/
theorem count_keys_le (component : Component σ) (count identity place : Nat) :
    (component.keys count).count (identity, place) ≤
      if component.identity = identity then 1 else 0 := by
  split
  case isTrue =>
    refine List.nodup_iff_count_le_one.mp (List.nodup_range.map ?_) _
    exact fun left right equal => (Prod.mk.inj equal).2
  case isFalse other =>
    refine (List.count_eq_zero.mpr ?_).le
    rw [keys, List.mem_map]
    rintro ⟨_, _, equal⟩
    exact other (Prod.mk.inj equal).1

/-- Among the keys of components, one occurs as often as there are components of that identity. -/
theorem count_flatMap_keys_le (components : List (Component σ)) (size : Component σ → Nat)
    (identity place : Nat) :
    (components.flatMap fun component => component.keys (size component)).count
        (identity, place) ≤ components.countP (·.identity == identity) := by
  induction components with
  | nil => exact Nat.le_refl 0
  | cons component components inductionHypothesis =>
      rw [List.flatMap_cons, List.count_append, List.countP_cons, Nat.add_comm]
      refine Nat.add_le_add inductionHypothesis ?_
      simpa using component.count_keys_le (size component) identity place

end Component

namespace Target

variable {target : Target σ} {components : List (Component σ)} {line : Line}

theorem keys_operations_sublist (target : Target σ) :
    (target.operations.map OperationMatch.key).Sublist
      (target.owners.flatMap fun owner => owner.keys owner.operations.length) := by
  have matched : ((target.owners.flatMap target.operationsOf).map OperationMatch.key).Sublist
      (target.owners.flatMap fun owner => owner.keys owner.operations.length) := by
    rw [List.map_flatMap]
    refine List.Sublist.flatMap_right _ fun owner _ => ?_
    rw [operationsOf, List.map_map]
    exact owner.keys_of_filter_sublist _ _
  unfold operations
  dsimp only
  split
  · exact (List.filter_sublist.map _).trans matched
  · exact matched

theorem keys_properties_sublist (target : Target σ) :
    (target.properties.map PropertyMatch.key).Sublist
      (target.owners.flatMap fun owner => owner.keys owner.properties.length) := by
  rw [properties, List.map_flatMap]
  refine List.Sublist.flatMap_right _ fun owner _ => ?_
  unfold propertiesOf
  split
  · exact List.nil_sublist _
  · rw [List.map_map]
    exact owner.keys_of_filter_sublist _ _

/-- What a chain of names leads to is visited by a walk, in its order. -/
theorem qualifiedOwners_sublist_walk (components : List (Component σ)) (chain : List Text) :
    (qualifiedOwners components chain).Sublist ((Component.walk components).map Prod.snd) := by
  unfold qualifiedOwners
  dsimp only
  split
  · exact Component.filterMap_descend_sublist_walk components _
  · exact (List.filter_sublist.filterMap _).trans
      (Component.filterMap_descend_sublist_walk components _)

theorem owners_sublist_walk_of_qualified (read : target ∈ qualified components line) :
    target.owners.Sublist ((Component.walk components).map Prod.snd) := by
  unfold qualified at read
  dsimp only at read
  split at read
  · cases read
  · obtain rfl := List.mem_singleton.mp read
    exact qualifiedOwners_sublist_walk components line.qualifiers

theorem owners_sublist_of_dotted {segments : List Text}
    (read : target ∈ dotted components segments) : target.owners.Sublist components := by
  unfold dotted at read
  split at read
  · cases read
  · dsimp only at read
    rcases List.mem_append.mp read with owned | rest
    · split at owned
      · split at owned
        · cases owned
        · obtain rfl := List.mem_singleton.mp owned
          exact List.filter_sublist
      · cases owned
    · obtain rfl := List.mem_singleton.mp rest
      exact List.Sublist.refl _

/-- The owners of a reading are visited by a walk, in its order. -/
theorem owners_sublist_walk (read : target ∈ ofLine components line) :
    target.owners.Sublist ((Component.walk components).map Prod.snd) := by
  have roots := Component.sublist_walk components
  unfold ofLine at read
  split at read
  case h_1 =>
    obtain rfl := List.mem_singleton.mp read
    exact roots
  case h_2 =>
    rcases List.mem_append.mp read with qualified | read
    · exact owners_sublist_walk_of_qualified qualified
    · split at read
      · exact (owners_sublist_of_dotted read).trans roots
      · cases read

/-- The first reading of a line that matches anything. -/
def chosen? (components : List (Component σ)) (line : Line) : Option (Target σ) :=
  (candidates components line).find? (·.resolve?.isSome)

theorem resolve?_eq_some {resolution : Resolution σ}
    (resolved : target.resolve? = some resolution) : resolution = target.resolution := by
  by_cases matched : target.Matches
  · exact Option.some.inj (resolved.symm.trans (resolve?_of_matches matched))
  · rw [resolve?_of_not_matches matched] at resolved
    cases resolved

theorem ofLine?_eq_chosen? (components : List (Component σ)) (line : Line) :
    Resolution.ofLine? components line = (chosen? components line).map resolution := by
  rw [ofLine?_eq_findSome?, chosen?]
  induction candidates components line with
  | nil => rfl
  | cons target rest inductionHypothesis =>
      cases resolved : target.resolve? with
      | some resolution => simp [resolved, resolve?_eq_some resolved]
      | none => simpa [resolved] using inductionHypothesis

theorem owners_sublist_walk_of_chosen? (chosen : chosen? components line = some target) :
    target.owners.Sublist ((Component.walk components).map Prod.snd) := by
  have candidate : target ∈ candidates components line := List.mem_of_find?_eq_some chosen
  unfold candidates at candidate
  split at candidate
  · cases candidate
  · exact owners_sublist_walk candidate

end Target

namespace Interpreter

variable {interpreter : Interpreter σ} {run last : Run σ} {made : List Call}

/-- Calls of matched operations are told apart as the operations are. -/
theorem Invokes.keys {arguments : List Text} {targets : List (OperationMatch σ)}
    (within : List.SublistForall₂ (Invokes interpreter arguments) made targets) :
    (made.filterMap Call.operation?).Sublist (targets.map OperationMatch.key) ∧
      made.filterMap Call.property? = [] := by
  induction within with
  | nil => exact ⟨List.nil_sublist _, rfl⟩
  | cons invokes within inductionHypothesis =>
      cases invokes
      exact ⟨inductionHypothesis.1.cons_cons _, inductionHypothesis.2⟩
  | cons_right within inductionHypothesis =>
      exact ⟨inductionHypothesis.1.cons _, inductionHypothesis.2⟩

theorem Writes.keys {argument? : Option Text} {targets : List (PropertyMatch σ)}
    (within : List.SublistForall₂ (Writes interpreter argument?) made targets) :
    (made.filterMap Call.property?).Sublist (targets.map PropertyMatch.key) ∧
      made.filterMap Call.operation? = [] := by
  induction within with
  | nil => exact ⟨List.nil_sublist _, rfl⟩
  | cons writes within inductionHypothesis =>
      cases writes <;> exact ⟨inductionHypothesis.1.cons_cons _, inductionHypothesis.2⟩
  | cons_right within inductionHypothesis =>
      exact ⟨inductionHypothesis.1.cons _, inductionHypothesis.2⟩

/-- The components that a line leads to. Those of one identity are the same component, which is led
to more than once if it hangs in several places. -/
def searched (interpreter : Interpreter σ) (line : Line) : List (Component σ) :=
  match Builtin.ofLine? line with
  | some .help | some .questionMark | some .getCommands => []
  | some .state | some .getState | some .getJsonState =>
      (Component.walk interpreter.components).map Prod.snd
  | none => ((Target.chosen? interpreter.components line).map (·.owners)).getD []

/-- No component hangs in two places. -/
def Unshared (interpreter : Interpreter σ) : Prop :=
  ((Component.walk interpreter.components).map (·.2.identity)).Nodup

/-- The calls made between two runs are of operations and properties of some components, in their
order and no more than one of each. -/
def CallsWithin (components : List (Component σ)) (run last : Run σ) : Prop :=
  ∃ made, last.calls = run.calls ++ made ∧
    (made.filterMap Call.operation?).Sublist
      (components.flatMap fun owner => owner.keys owner.operations.length) ∧
    (made.filterMap Call.property?).Sublist
      (components.flatMap fun owner => owner.keys owner.properties.length)

namespace CallsWithin

theorem nothing (components : List (Component σ)) (run : Run σ) :
    CallsWithin components run run :=
  ⟨[], (List.append_nil _).symm, List.nil_sublist _, List.nil_sublist _⟩

theorem perform (interpreter : Interpreter σ) (target : Target σ) (run : Run σ) :
    CallsWithin target.owners run (interpreter.perform target.resolution run).2 := by
  have ran : ResolutionRun interpreter target.resolution run _
      (interpreter.perform target.resolution run).2 := resolutionRun_of_perform rfl
  obtain ⟨middle, ⟨handlers, called, invoked⟩, ⟨writes, calledLater, written⟩⟩ := ran.makes
  obtain ⟨operations, noProperties⟩ := Invokes.keys invoked
  obtain ⟨properties, noOperations⟩ := Writes.keys written
  -- Handlers have no property and writes no operation, so each part counts for one side only.
  refine ⟨handlers ++ writes, by rw [calledLater, called, List.append_assoc], ?_, ?_⟩
  · rw [List.filterMap_append, noOperations, List.append_nil]
    exact operations.trans target.keys_operations_sublist
  · rw [List.filterMap_append, noProperties, List.nil_append]
    exact properties.trans target.keys_properties_sublist

/-- A state dump goes through all components in the order of the walk. -/
theorem stateEntries (interpreter : Interpreter σ) (run : Run σ) :
    CallsWithin ((Component.walk interpreter.components).map Prod.snd) run
      (interpreter.stateEntries run).2 := by
  obtain ⟨made, called, invoked⟩ :=
    interpreter.makes_collect (Component.walk interpreter.components) run
  obtain ⟨operations, noProperties⟩ := Invokes.keys invoked
  refine ⟨made, called, operations.trans ?_, noProperties ▸ List.nil_sublist _⟩
  rw [List.map_flatMap, List.flatMap_map]
  refine List.Sublist.flatMap_right _ fun entry _ => ?_
  rw [reporters, List.map_map]
  exact entry.2.keys_of_filter_sublist _ _

theorem dispatchLine (interpreter : Interpreter σ) (line : Line) (run : Run σ) :
    CallsWithin (interpreter.searched line) run (interpreter.dispatchLine line run).2 := by
  unfold Interpreter.dispatchLine searched
  cases Builtin.ofLine? line with
  | some builtin =>
      cases builtin with
      | help | questionMark | getCommands => exact nothing _ run
      | state | getState | getJsonState => exact stateEntries interpreter run
  | none =>
      dsimp only
      rw [Target.ofLine?_eq_chosen?]
      cases Target.chosen? interpreter.components line with
      | some target => exact perform interpreter target run
      | none => exact nothing _ run

end CallsWithin

/-- Whatever a line leads to is visited by a walk, in its order. -/
theorem searched_sublist_walk (interpreter : Interpreter σ) (line : Line) :
    (interpreter.searched line).Sublist ((Component.walk interpreter.components).map Prod.snd) := by
  unfold searched
  cases Builtin.ofLine? line with
  | some builtin =>
      cases builtin with
      | help | questionMark | getCommands => exact List.nil_sublist _
      | state | getState | getJsonState => exact List.Sublist.refl _
  | none =>
      cases chosen : Target.chosen? interpreter.components line with
      | some target => exact Target.owners_sublist_walk_of_chosen? chosen
      | none => exact List.nil_sublist _

/-- A line leads only once to a component that hangs in one place. -/
theorem Unshared.countP_searched_le (unshared : interpreter.Unshared) (line : Line)
    (identity : Nat) : (interpreter.searched line).countP (·.identity == identity) ≤ 1 := by
  have walked := List.nodup_iff_count_le_one.mp unshared identity
  rw [List.count, List.countP_map] at walked
  refine (interpreter.searched_sublist_walk line).countP_le.trans ?_
  rw [List.countP_map]
  exact walked

/-- One dispatch calls an operation, or writes a property, no more often than the line leads to the
component that has it. So if no component hangs in two places, nothing is called twice. -/
theorem dispatch_calls_count_le (interpreter : Interpreter σ) (input : Text) (run : Run σ) :
    ∃ made, (interpreter.dispatch input run).2.calls = run.calls ++ made ∧
      (∀ identity place,
        (made.filterMap Call.operation?).count (identity, place) ≤
            (interpreter.searched (Line.parse input)).countP (·.identity == identity) ∧
          (made.filterMap Call.property?).count (identity, place) ≤
            (interpreter.searched (Line.parse input)).countP (·.identity == identity)) ∧
      (interpreter.Unshared →
        (made.filterMap Call.operation?).Nodup ∧ (made.filterMap Call.property?).Nodup) := by
  obtain ⟨made, called, operations, properties⟩ :=
    CallsWithin.dispatchLine interpreter (Line.parse input) run
  have bound : ∀ identity place,
      (made.filterMap Call.operation?).count (identity, place) ≤
          (interpreter.searched (Line.parse input)).countP (·.identity == identity) ∧
        (made.filterMap Call.property?).count (identity, place) ≤
          (interpreter.searched (Line.parse input)).countP (·.identity == identity) :=
    fun identity place =>
      ⟨(operations.count_le _).trans (Component.count_flatMap_keys_le _ _ identity place),
        (properties.count_le _).trans (Component.count_flatMap_keys_le _ _ identity place)⟩
  refine ⟨made, called, bound, fun unshared => ?_⟩
  have once := unshared.countP_searched_le (Line.parse input)
  exact ⟨List.nodup_iff_count_le_one.mpr fun key => (bound key.1 key.2).1.trans (once key.1),
    List.nodup_iff_count_le_one.mpr fun key => (bound key.1 key.2).2.trans (once key.1)⟩

/-- Each of two cameras has its own components, so a line that means both writes each of them
once. -/
theorem dispatch_calls_count_le_twinCameras :
    twinCameras.Unshared ∧
      ∃ made, (twinCameras.dispatch "Camera.Iso.800" { state := ({}, {}) }).2.calls = made ∧
        (made.filterMap Call.property?).Nodup := by
  have unshared : twinCameras.Unshared := by
    simp [Unshared, Component.walk, Component.visit, Component.childAgenda, twinCameras,
      Camera.component]
  obtain ⟨made, called, _, once⟩ :=
    twinCameras.dispatch_calls_count_le "Camera.Iso.800" { state := ({}, {}) }
  exact ⟨unshared, made, called, (once unshared).2⟩

/-- One lens hangs below two components, and another below a third between them. The state counts
how often either is moved. -/
def sharedLens : Interpreter Nat where
  components :=
    let zoom : Operation Nat :=
      { name := "Zoom", handler := fun _ _ moves => (.ok .null, moves + 1) }
    let focus : Property Nat := {
      name := "Focus"
      kind := .string
      converter? := some fun raw _ => .ok (.string raw)
      access :=
        .scalar (fun moves => .ok (.ofInt moves)) (some fun _ moves => (.ok (), moves + 1)) }
    let lens : Component Nat :=
      { identity := 0, name := "Lens", operations := [zoom], properties := [focus] }
    let other : Component Nat := { identity := 1, name := "Lens", operations := [zoom] }
    [{ identity := 2, name := "Left", children := [lens] },
      { identity := 3, name := "Middle", children := [other] },
      { identity := 4, name := "Right", children := [lens] }]

/-- The lens that hangs below two components is zoomed twice by one line, and focused twice by
another. -/
theorem sharedLens_calls_twice :
    (sharedLens.dispatch "Lens.Zoom" { state := 0 }).2.calls =
        [.handler 0 0 [], .handler 1 0 [], .handler 0 0 []] ∧
      (sharedLens.dispatch "Lens.Focus:5" { state := 0 }).2.calls =
        [.setter 0 0 (.string "5"), .setter 0 0 (.string "5")] :=
  ⟨rfl, rfl⟩

end Interpreter

end CommandLink
