import CommandLink.Proofs.Dispatch.Arguments
import Mathlib.Logic.Relation

/-!
# Effects of a dispatch

The state of a device changes through its own code only. Whatever a line means, the state after it
is reached from the state before it by handlers of matched operations and by writes to matched
properties, and only if no guard tripped before the first of them (`effects_of_dispatchLine`). So
what device code keeps to, a dispatch keeps to as well.
-/

namespace CommandLink

variable {σ : Type}

namespace Target

variable {target : Target σ}

theorem not_tripped_of_tripped?_eq_none {state : σ}
    (calm : target.resolution.tripped? state = none) : ¬ target.Tripped state := by
  intro tripped
  obtain ⟨checkpoint, first⟩ := tripped.exists_first
  rw [tripped?_resolution, first] at calm
  cases calm

/-- A property is written only by a line with a single argument. -/
theorem length_arguments_of_mem_properties {matched : PropertyMatch σ} {raw : Text}
    (member : matched ∈ target.properties) (given : target.arguments.head? = some raw) :
    target.arguments.length = 1 := by
  obtain ⟨owner, _, inOwner⟩ := List.mem_flatMap.mp member
  unfold propertiesOf at inOwner
  split at inOwner
  case isTrue => cases inOwner
  case isFalse few =>
    have some_argument : target.arguments ≠ [] := by
      intro without
      rw [without] at given
      cases given
    have positive := List.length_pos_iff.mpr some_argument
    omega

end Target

namespace Interpreter

/-- What the handler of a matched operation makes of a state, on converted arguments. -/
inductive Handles (interpreter : Interpreter σ) (arguments : List Text)
    (target : OperationMatch σ) : σ → σ → Prop where
  | handler {values} (converted : interpreter.Converts target.operation
        (arguments.zip target.operation.parameters) values) (before : σ) :
      Handles interpreter arguments target before
        (target.operation.handler interpreter.directory values before).2

/-- What writing the converted argument to a matched property makes of a state. -/
inductive Stores (interpreter : Interpreter σ) (argument? : Option Text)
    (target : PropertyMatch σ) : σ → σ → Prop where
  | setter {raw value get set} (given : argument? = some raw)
      (converted : Kind.convert target.property.converter?
        (interpreter.converter? target.property.name) raw target.property.kind = .ok value)
      (settable : target.property.access = .scalar get (some set)) (before : σ) :
      Stores interpreter argument? target before (set value before).2
  | merge {raw value access} (given : argument? = some raw)
      (converted : Kind.convert target.property.converter?
        (interpreter.converter? target.property.name) raw target.property.kind = .ok value)
      (listed : target.property.access = .list access) (before : σ) :
      Stores interpreter argument? target before (access.makeEqual (listItems value) before).2
  /-- The dispatcher of list merges does something of its own. -/
  | enter {dispatcher} (asked : interpreter.dispatcher? = some dispatcher) (before : σ) :
      Stores interpreter argument? target before (dispatcher.enter before)

/-- A state is reached from another by effects of some targets. -/
def Reaches {α : Type} (of : α → σ → σ → Prop) (targets : List α) : σ → σ → Prop :=
  Relation.ReflTransGen fun before after => ∃ target ∈ targets, of target before after

namespace Reaches

variable {α : Type} {of : α → σ → σ → Prop} {targets more : List α} {before after : σ}

theorem refl (targets : List α) (state : σ) : Reaches of targets state state :=
  Relation.ReflTransGen.refl

theorem single {target : α} (effect : of target before after) :
    Reaches of [target] before after :=
  Relation.ReflTransGen.single ⟨target, List.mem_singleton_self target, effect⟩

/-- What every effect of a target comes to, a chain of them comes to. -/
theorem lift {relation : σ → σ → Prop} (reaches : Reaches of targets before after)
    (each : ∀ target ∈ targets, ∀ before after, of target before after → relation before after) :
    Relation.ReflTransGen relation before after := by
  refine Relation.ReflTransGen.mono ?_ before after reaches
  rintro before after ⟨target, member, effect⟩
  exact each target member before after effect

/-- The targets may as well be among more. -/
theorem mono (reaches : Reaches of targets before after) (subset : targets ⊆ more) :
    Reaches of more before after :=
  reaches.lift fun target member _ _ effect => ⟨target, subset member, effect⟩

theorem append {middle : σ} (first : Reaches of targets before middle)
    (second : Reaches of more middle after) : Reaches of (targets ++ more) before after :=
  Relation.ReflTransGen.trans (first.mono (List.subset_append_left _ _))
    (second.mono (List.subset_append_right _ _))

theorem accumulates (of : α → σ → σ → Prop) :
    Accumulates fun targets (run next : Run σ) => Reaches of targets run.state next.state where
  refl _ := refl _ _
  append := append
  mono sublist reaches := reaches.mono sublist.subset

end Reaches

variable {interpreter : Interpreter σ} {arguments : List Text} {argument? : Option Text}
  {run next : Run σ}

theorem Attempt.reaches {target : OperationMatch σ} {result : Except DispatchError Text}
    (attempt : Attempt interpreter arguments target run result next) :
    Reaches (Handles interpreter arguments) [target] run.state next.state := by
  cases attempt with
  | unconverted rejected => exact .refl _ _
  | late converted limited slow => exact .refl _ _
  | invoked converted prompt ran =>
      have handles := Handles.handler converted run.state
      rw [ran] at handles
      exact .single handles

/-- Storing a value enters the dispatcher, merges, or sets, and does nothing else. -/
theorem reaches_store {target : PropertyMatch σ} {raw : Text} {value : Value}
    {result : Except Fault Unit} (given : argument? = some raw)
    (converted : Kind.convert target.property.converter?
      (interpreter.converter? target.property.name) raw target.property.kind = .ok value)
    (stored : interpreter.store target value run = (result, next)) :
    Reaches (Stores interpreter argument?) [target] run.state next.state := by
  obtain rfl : (interpreter.store target value run).2 = next := congrArg Prod.snd stored
  unfold store
  split
  case h_1 access listed =>
    unfold mergeList
    dsimp only
    split
    case h_1 => exact .single (.merge given converted listed run.state)
    case h_2 dispatcher asked =>
      have entered : Reaches (Stores interpreter argument?) [target] run.state
          (dispatcher.enter run.state) := .single (.enter asked run.state)
      split
      case isTrue =>
        exact Relation.ReflTransGen.tail entered ⟨target, List.mem_singleton_self target,
          .merge given converted listed (dispatcher.enter run.state)⟩
      case isFalse => exact entered
  case h_2 => exact .refl _ _
  case h_3 get set settable => exact .single (.setter given converted settable run.state)

theorem PropertyAttempt.reaches {target : PropertyMatch σ} {result : Except DispatchError Text}
    (attempt : PropertyAttempt interpreter target run argument? result next) :
    Reaches (Stores interpreter argument?) [target] run.state next.state := by
  cases attempt with
  | read => exact .refl _ _
  | unconverted rejected => exact .refl _ _
  | refused converted failed => exact reaches_store rfl converted failed
  | stored converted succeeded => exact reaches_store rfl converted succeeded

theorem reaches_invoke (interpreter : Interpreter σ) (target : OperationMatch σ) (run : Run σ) :
    Reaches (Handles interpreter []) [target] run.state
      (interpreter.invoke target [] run).2.state := by
  unfold invoke
  dsimp only
  split
  case h_1 => exact .refl _ _
  case h_2 =>
    exact .single (.handler (interpreter.converts_nil target.operation) run.state)

/-- How device code may change the state in the dispatch of a line that begins in `start`. -/
inductive Effect (interpreter : Interpreter σ) (line : Line) (start : σ) : σ → σ → Prop where
  | invoked {target : Target σ} {matched : OperationMatch σ} {before after : σ}
      (chosen : Target.chosen? interpreter.components line = some target)
      (calm : ¬ target.Tripped start) (member : matched ∈ target.operations)
      (handles : Handles interpreter target.arguments matched before after) :
      Effect interpreter line start before after
  | written {target : Target σ} {matched : PropertyMatch σ} {before after : σ}
      (chosen : Target.chosen? interpreter.components line = some target)
      (calm : ¬ target.Tripped start) (member : matched ∈ target.properties)
      (stores : Stores interpreter target.arguments.head? matched before after) :
      Effect interpreter line start before after
  /-- A state dump asks for a result. -/
  | reported {owner : Component σ} {matched : OperationMatch σ} {before after : σ}
      (known : owner ∈ (Component.walk interpreter.components).map Prod.snd)
      (member : matched ∈ reporters owner)
      (handles : Handles interpreter [] matched before after) :
      Effect interpreter line start before after

/-- The effects of carrying out the chosen target. There are none if a guard trips. -/
theorem effects_of_perform {line : Line} {target : Target σ}
    (chosen : Target.chosen? interpreter.components line = some target) (run : Run σ) :
    Relation.ReflTransGen (interpreter.Effect line run.state) run.state
      (interpreter.perform target.resolution run).2.state := by
  cases performed : interpreter.perform target.resolution run with
  | mk outcomes last =>
      cases resolutionRun_of_perform performed with
      | cancelled tripped => exact .refl
      | carried calm invoked accessed =>
          have untripped := Target.not_tripped_of_tripped?_eq_none calm
          have handled := invoked.accumulate (Reaches.accumulates _) Attempt.reaches
          have stored := accessed.accumulate (Reaches.accumulates _) PropertyAttempt.reaches
          rw [Resolution.groups, List.flatten_splitBy] at handled
          refine .trans (handled.lift ?_) (stored.lift ?_)
          · intro matched member before after handles
            exact .invoked chosen untripped member handles
          · intro matched member before after stores
            exact .written chosen untripped member stores

theorem effects_of_stateEntries (interpreter : Interpreter σ) (line : Line) (run : Run σ) :
    Relation.ReflTransGen (interpreter.Effect line run.state) run.state
      (interpreter.stateEntries run).2.state := by
  have reached := collect_accumulate (Reaches.accumulates _) interpreter.reaches_invoke
    (Component.walk interpreter.components) run
  refine reached.lift ?_
  intro matched among before after handles
  obtain ⟨entry, walked, member⟩ := List.mem_flatMap.mp among
  exact .reported (List.mem_map_of_mem walked) member handles

/-- The state after a line is reached by effects of device code from the state before it. -/
theorem effects_of_dispatchLine (interpreter : Interpreter σ) (line : Line) (run : Run σ) :
    Relation.ReflTransGen (interpreter.Effect line run.state) run.state
      (interpreter.dispatchLine line run).2.state := by
  unfold dispatchLine
  cases Builtin.ofLine? line with
  | some builtin =>
      cases builtin with
      | help | questionMark | getCommands => exact .refl
      | state | getState | getJsonState => exact effects_of_stateEntries interpreter line run
  | none =>
      dsimp only
      rw [Target.ofLine?_eq_chosen?]
      cases chosen : Target.chosen? interpreter.components line with
      | some target => exact effects_of_perform chosen run
      | none => exact .refl

end Interpreter

end CommandLink
