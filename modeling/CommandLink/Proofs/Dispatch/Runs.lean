import CommandLink.Interpreter.Listing
import CommandLink.Proofs.Dispatch.Cancellation
import Mathlib.Data.List.Forall2
import Mathlib.Data.List.SplitBy

/-!
# Runs of matches

What may come of a matched operation, of a block of operations of one owner, and of a matched
property, as relations between the run before and the run after. The interpreter keeps to these
relations (`attempt_of_runOperation`, `blockRun_of_runGroup`, `propertiesRun_of_runProperties`,
`resolutionRun_of_perform`), and what holds of all calls of device code is shown by going through
them: what is related by every single attempt is related by the whole (`Accumulates`).
-/

namespace CommandLink

variable {σ : Type}

namespace Interpreter

/-- Convert an argument for a parameter of an operation. -/
def convertArgument (interpreter : Interpreter σ) (operation : Operation σ)
    (argument : Text × Parameter) : Except ConversionError Value :=
  Kind.convert operation.converter? (interpreter.converter? argument.2.name) argument.1
    argument.2.kind

/-- All arguments of an operation convert, each to its value. -/
def Converts (interpreter : Interpreter σ) (operation : Operation σ)
    (arguments : List (Text × Parameter)) (values : List Value) : Prop :=
  List.Forall₂ (fun argument value => interpreter.convertArgument operation argument = .ok value)
    arguments values

theorem converts_nil (interpreter : Interpreter σ) (operation : Operation σ) :
    interpreter.Converts operation (([] : List Text).zip operation.parameters) [] :=
  List.Forall₂.nil

/-- An argument of an operation does not convert. It is the first. -/
inductive Rejects (interpreter : Interpreter σ) (operation : Operation σ) :
    List (Text × Parameter) → ConversionError → Prop where
  | here {argument error} (rest : List (Text × Parameter))
      (rejected : interpreter.convertArgument operation argument = .error error) :
      Rejects interpreter operation (argument :: rest) error
  | later {argument value rest error}
      (converted : interpreter.convertArgument operation argument = .ok value)
      (rejected : Rejects interpreter operation rest error) :
      Rejects interpreter operation (argument :: rest) error

/-- Arguments are converted if all of them can be. -/
theorem convertArguments_spec (interpreter : Interpreter σ) (operation : Operation σ)
    (arguments : List Text) (parameters : List Parameter) :
    match interpreter.convertArguments operation arguments parameters with
    | .ok values => interpreter.Converts operation (arguments.zip parameters) values
    | .error error => interpreter.Rejects operation (arguments.zip parameters) error := by
  induction arguments generalizing parameters with
  | nil => exact List.Forall₂.nil
  | cons raw arguments inductionHypothesis =>
      cases parameters with
      | nil => exact List.Forall₂.nil
      | cons parameter parameters =>
          have rest := inductionHypothesis parameters
          rw [convertArguments]
          cases first : interpreter.convertArgument operation (raw, parameter) with
          | error error =>
              rw [convertArgument] at first
              simp only [first, bind, Except.bind, List.zip_cons_cons]
              exact .here _ first
          | ok value =>
              have converted := first
              rw [convertArgument] at first
              cases others : interpreter.convertArguments operation arguments parameters with
              | error error =>
                  rw [others] at rest
                  simp only [first, bind, Except.bind, List.zip_cons_cons]
                  exact .later converted rest
              | ok values =>
                  rw [others] at rest
                  simp only [first, bind, Except.bind, pure, Except.pure, List.zip_cons_cons]
                  exact .cons converted rest

/-- What an operation answers with what its handler has come to. -/
def handled (operation : Operation σ) : Except Fault Value → Except DispatchError Text
  | .ok value => (applyOutput operation.output? operation.name value).map (resultText operation)
  | .error fault => .error (.execution operation.name fault.message)

/-- What may come of an attempt to run an operation. -/
inductive Attempt (interpreter : Interpreter σ) (arguments : List Text) (target : OperationMatch σ)
    (run : Run σ) : Except DispatchError Text → Run σ → Prop where
  /-- An argument does not convert. Nothing happens. -/
  | unconverted {error} (rejected : interpreter.Rejects target.operation
        (arguments.zip target.operation.parameters) error) :
      Attempt interpreter arguments target run (.error (.conversion error)) run
  /-- Its delay is too long for the time limit. Only time passes. -/
  | late {values limit} (converted : interpreter.Converts target.operation
        (arguments.zip target.operation.parameters) values)
      (limited : interpreter.options.invokeTimeout? = some limit)
      (slow : limit ≤ target.operation.delay) :
      Attempt interpreter arguments target run (.error (.timeout target.operation.name limit))
        { run with elapsed := run.elapsed + limit }
  /-- Its handler runs on the converted arguments. -/
  | invoked {values result state} (converted : interpreter.Converts target.operation
        (arguments.zip target.operation.parameters) values)
      (prompt : ∀ limit, interpreter.options.invokeTimeout? = some limit →
        target.operation.delay < limit)
      (ran : target.operation.handler interpreter.directory values run.state = (result, state)) :
      Attempt interpreter arguments target run (handled target.operation result)
        { state
          elapsed := run.elapsed + target.operation.delay
          calls := run.calls ++ [.handler target.owner.identity target.place values] }

variable {interpreter : Interpreter σ} {arguments : List Text} {run next middle last : Run σ}

theorem attempt_of_runOperation {target : OperationMatch σ} {result : Except DispatchError Text}
    (ran : interpreter.runOperation target arguments run = (result, next)) :
    Attempt interpreter arguments target run result next := by
  have spec := interpreter.convertArguments_spec target.operation arguments
    target.operation.parameters
  unfold runOperation at ran
  dsimp only at ran
  split at ran
  case h_1 error rejected =>
    rw [rejected] at spec
    cases ran
    exact .unconverted spec
  case h_2 values converted =>
    rw [converted] at spec
    unfold invoke at ran
    dsimp only at ran
    split at ran
    case h_1 limit late =>
      obtain ⟨limited, slow⟩ := Option.filter_eq_some_iff.mp late
      cases ran
      exact .late spec limited (by simpa using slow)
    case h_2 prompt =>
      have inTime : ∀ limit, interpreter.options.invokeTimeout? = some limit →
          target.operation.delay < limit := fun limit limited => by
        simpa using Option.filter_eq_none_iff.mp prompt limit limited
      cases handling : target.operation.handler interpreter.directory values run.state with
      | mk outcome state =>
          simp only [handling] at ran
          cases outcome <;> cases ran <;> exact .invoked spec inTime handling

/-- Operations that are attempted in turn and all fail, with one outcome for each. -/
inductive AllFail (interpreter : Interpreter σ) (arguments : List Text) :
    List (OperationMatch σ) → Run σ → List Outcome → Run σ → Prop where
  | nil (run : Run σ) : AllFail interpreter arguments [] run [] run
  | cons {target error targets outcomes run next last}
      (attempt : Attempt interpreter arguments target run (.error error) next)
      (rest : AllFail interpreter arguments targets next outcomes last) :
      AllFail interpreter arguments (target :: targets) run
        (⟨target.operation.name, .error error⟩ :: outcomes) last

/-- What may come of operations of one owner. -/
inductive BlockRun (interpreter : Interpreter σ) (arguments : List Text) :
    List (OperationMatch σ) → Run σ → List Outcome → Run σ → Prop where
  /-- One succeeds, after all before it have failed. Its outcome is the only one, and those after it
  are not attempted. -/
  | success {tried target failures text run middle last} (untried : List (OperationMatch σ))
      (failed : AllFail interpreter arguments tried run failures middle)
      (attempt : Attempt interpreter arguments target middle (.ok text) last) :
      BlockRun interpreter arguments (tried ++ target :: untried) run
        [⟨target.operation.name, .ok text⟩] last
  /-- All fail, with one outcome for each. -/
  | failure {block failures run last}
      (failed : AllFail interpreter arguments block run failures last) :
      BlockRun interpreter arguments block run failures last

/-- Operations that are invoked in turn until one succeeds. The failures so far are kept. -/
theorem runGroup_cases {group : List (OperationMatch σ)} {failures outcomes : List Outcome}
    (ran : interpreter.runGroup arguments failures group run = (outcomes, last)) :
    (∃ tried target untried failed middle text, group = tried ++ target :: untried ∧
      AllFail interpreter arguments tried run failed middle ∧
      Attempt interpreter arguments target middle (.ok text) last ∧
      outcomes = [⟨target.operation.name, .ok text⟩]) ∨
    ∃ failed, AllFail interpreter arguments group run failed last ∧
      outcomes = failures ++ failed := by
  -- The failures so far only matter if nothing succeeds, so they are general in the induction.
  induction group generalizing failures run with
  | nil =>
      cases ran
      exact .inr ⟨[], .nil _, (List.append_nil _).symm⟩
  | cons target group inductionHypothesis =>
      unfold runGroup at ran
      split at ran
      case h_1 succeeded =>
        cases ran
        exact .inl ⟨[], target, group, [], run, _, rfl, .nil _,
          attempt_of_runOperation succeeded, rfl⟩
      case h_2 error next failed =>
        have attempt := attempt_of_runOperation failed
        rcases inductionHypothesis ran with
          ⟨tried, winner, untried, earlier, middle, text, rfl, allFailed, won, rfl⟩ |
          ⟨later, allFailed, rfl⟩
        · exact .inl ⟨target :: tried, winner, untried, _, middle, text, rfl,
            .cons attempt allFailed, won, rfl⟩
        · exact .inr ⟨_, .cons attempt allFailed, by simp⟩

theorem blockRun_of_runGroup {group : List (OperationMatch σ)} {outcomes : List Outcome}
    (ran : interpreter.runGroup arguments [] group run = (outcomes, last)) :
    BlockRun interpreter arguments group run outcomes last := by
  rcases runGroup_cases ran with ⟨_, _, untried, _, _, _, rfl, failed, won, rfl⟩ |
    ⟨_, failed, rfl⟩
  · exact .success untried failed won
  · exact .failure failed

/-- Blocks of operations that run in order, with the outcomes of each. -/
inductive BlocksRun (interpreter : Interpreter σ) (arguments : List Text) :
    List (List (OperationMatch σ)) → Run σ → List (List Outcome) → Run σ → Prop where
  | nil (run : Run σ) : BlocksRun interpreter arguments [] run [] run
  | cons {block blocks outcomes later run next last}
      (first : BlockRun interpreter arguments block run outcomes next)
      (rest : BlocksRun interpreter arguments blocks next later last) :
      BlocksRun interpreter arguments (block :: blocks) run (outcomes :: later) last

theorem blocksRun_of_runGroups {groups : List (List (OperationMatch σ))} {outcomes : List Outcome}
    (ran : interpreter.runGroups arguments groups run = (outcomes, last)) :
    ∃ blockOutcomes, blockOutcomes.flatten = outcomes ∧
      BlocksRun interpreter arguments groups run blockOutcomes last := by
  induction groups generalizing run outcomes last with
  | nil =>
      cases ran
      exact ⟨[], rfl, .nil _⟩
  | cons group groups inductionHypothesis =>
      cases first : interpreter.runGroup arguments [] group run with
      | mk earlier next =>
          cases rest : interpreter.runGroups arguments groups next with
          | mk later last =>
              obtain ⟨blockOutcomes, rfl, ranRest⟩ := inductionHypothesis rest
              simp only [runGroups, first, rest] at ran
              cases ran
              exact ⟨earlier :: blockOutcomes, rfl, .cons (blockRun_of_runGroup first) ranRest⟩

/-- What may come of a property that is read, or written if there is an argument. -/
inductive PropertyAttempt (interpreter : Interpreter σ) (target : PropertyMatch σ) (run : Run σ) :
    Option Text → Except DispatchError Text → Run σ → Prop where
  | read : PropertyAttempt interpreter target run none (showProperty target.property run.state) run
  /-- The argument does not convert. Nothing happens. -/
  | unconverted {raw error}
      (rejected : Kind.convert target.property.converter?
        (interpreter.converter? target.property.name) raw target.property.kind = .error error) :
      PropertyAttempt interpreter target run (some raw) (.error (.conversion error)) run
  /-- The converted argument cannot be stored. -/
  | refused {raw value fault next}
      (converted : Kind.convert target.property.converter?
        (interpreter.converter? target.property.name) raw target.property.kind = .ok value)
      (failed : interpreter.store target value run = (.error fault, next)) :
      PropertyAttempt interpreter target run (some raw)
        (.error (.execution target.property.name fault.message)) next
  /-- The converted argument is stored, and the property is shown as it is then. -/
  | stored {raw value next}
      (converted : Kind.convert target.property.converter?
        (interpreter.converter? target.property.name) raw target.property.kind = .ok value)
      (succeeded : interpreter.store target value run = (.ok (), next)) :
      PropertyAttempt interpreter target run (some raw)
        (showProperty target.property next.state) next

theorem propertyAttempt_of_setProperty {target : PropertyMatch σ} {raw : Text}
    {result : Except DispatchError Text}
    (ran : interpreter.setProperty target raw run = (result, next)) :
    PropertyAttempt interpreter target run (some raw) result next := by
  unfold setProperty at ran
  dsimp only at ran
  split at ran
  case h_1 rejected =>
    cases ran
    exact .unconverted rejected
  case h_2 converted =>
    split at ran
    case h_1 failed =>
      cases ran
      exact .refused converted failed
    case h_2 succeeded =>
      cases ran
      exact .stored converted succeeded

/-- Properties that are read or written in order, with one outcome for each. -/
inductive PropertiesRun (interpreter : Interpreter σ) (argument? : Option Text) :
    List (PropertyMatch σ) → Run σ → List Outcome → Run σ → Prop where
  | nil (run : Run σ) : PropertiesRun interpreter argument? [] run [] run
  | cons {target result targets outcomes run next last}
      (attempt : PropertyAttempt interpreter target run argument? result next)
      (rest : PropertiesRun interpreter argument? targets next outcomes last) :
      PropertiesRun interpreter argument? (target :: targets) run
        (⟨target.property.name, result⟩ :: outcomes) last

theorem propertiesRun_of_runProperties {argument? : Option Text} {targets : List (PropertyMatch σ)}
    {outcomes : List Outcome}
    (ran : interpreter.runProperties argument? targets run = (outcomes, last)) :
    PropertiesRun interpreter argument? targets run outcomes last := by
  induction targets generalizing run outcomes with
  | nil =>
      cases ran
      exact .nil _
  | cons target targets inductionHypothesis =>
      unfold runProperties at ran
      cases argument? with
      | none =>
          cases ran
          exact .cons .read (inductionHypothesis rfl)
      | some raw =>
          cases first : interpreter.setProperty target raw run with
          | mk result next =>
              simp only [first] at ran
              cases ran
              exact .cons (propertyAttempt_of_setProperty first) (inductionHypothesis rfl)

/-- What may come of carrying out what a line means. -/
inductive ResolutionRun (interpreter : Interpreter σ) (resolution : Resolution σ) (run : Run σ) :
    List Outcome → Run σ → Prop where
  | cancelled {message} (tripped : resolution.tripped? run.state = some message) :
      ResolutionRun interpreter resolution run
        [⟨resolution.command, .error (.cancelled message)⟩] run
  /-- No guard trips. The operations run in their blocks, and then the properties. -/
  | carried {blockOutcomes propertyOutcomes middle last}
      (calm : resolution.tripped? run.state = none)
      (invoked : BlocksRun interpreter resolution.arguments resolution.groups run blockOutcomes
        middle)
      (accessed : PropertiesRun interpreter resolution.arguments.head? resolution.properties middle
        propertyOutcomes last) :
      ResolutionRun interpreter resolution run (blockOutcomes.flatten ++ propertyOutcomes) last

theorem resolutionRun_of_perform {resolution : Resolution σ} {outcomes : List Outcome}
    (performed : interpreter.perform resolution run = (outcomes, last)) :
    ResolutionRun interpreter resolution run outcomes last := by
  unfold perform at performed
  split at performed
  case h_1 tripped =>
    cases performed
    exact .cancelled tripped
  case h_2 calm =>
    cases invoked : interpreter.runGroups resolution.arguments resolution.groups run with
    | mk earlier middle =>
        obtain ⟨blockOutcomes, rfl, ranBlocks⟩ := blocksRun_of_runGroups invoked
        simp only [invoked] at performed
        cases performed
        exact .carried calm ranBlocks (propertiesRun_of_runProperties rfl)

/-- A target without operations that no guard holds up is properties to be read or written. -/
theorem perform_properties (interpreter : Interpreter σ) {target : Target σ} {run : Run σ}
    (noOperation : target.operations = []) (calm : ¬ target.Tripped run.state) :
    interpreter.perform target.resolution run =
      interpreter.runProperties target.arguments.head? target.properties run := by
  rw [perform, Target.tripped?_eq_none calm]
  simp [Resolution.groups, Target.resolution, noOperation, runGroups]

/-- A relation between runs, for the targets that are gone through on the way, that holds of a whole
if it holds of its parts, and of more targets as well. -/
structure Accumulates {α : Type} (relation : List α → Run σ → Run σ → Prop) : Prop where
  refl (run : Run σ) : relation [] run run
  append {targets more run next last} (first : relation targets run next)
    (second : relation more next last) : relation (targets ++ more) run last
  mono {targets more run next} (sublist : targets.Sublist more)
    (part : relation targets run next) : relation more run next

section Accumulation

variable {relation : List (OperationMatch σ) → Run σ → Run σ → Prop} {outcomes : List Outcome}

theorem AllFail.accumulate (accumulates : Accumulates relation)
    (each : ∀ {target run result next}, Attempt interpreter arguments target run result next →
      relation [target] run next) {targets : List (OperationMatch σ)}
    (failed : AllFail interpreter arguments targets run outcomes last) :
    relation targets run last := by
  induction failed with
  | nil run => exact accumulates.refl run
  | cons attempt rest inductionHypothesis =>
      exact accumulates.append (each attempt) inductionHypothesis

theorem BlockRun.accumulate (accumulates : Accumulates relation)
    (each : ∀ {target run result next}, Attempt interpreter arguments target run result next →
      relation [target] run next) {block : List (OperationMatch σ)}
    (ran : BlockRun interpreter arguments block run outcomes last) : relation block run last := by
  cases ran with
  | success untried failed attempt =>
      refine accumulates.append (failed.accumulate accumulates each) ?_
      exact accumulates.mono ((List.nil_sublist untried).cons_cons _) (each attempt)
  | failure failed => exact failed.accumulate accumulates each

theorem BlocksRun.accumulate (accumulates : Accumulates relation)
    (each : ∀ {target run result next}, Attempt interpreter arguments target run result next →
      relation [target] run next) {blocks : List (List (OperationMatch σ))}
    {blockOutcomes : List (List Outcome)}
    (ran : BlocksRun interpreter arguments blocks run blockOutcomes last) :
    relation blocks.flatten run last := by
  induction ran with
  | nil run => exact accumulates.refl run
  | cons first rest inductionHypothesis =>
      exact accumulates.append (first.accumulate accumulates each) inductionHypothesis

theorem PropertiesRun.accumulate {argument? : Option Text}
    {relation : List (PropertyMatch σ) → Run σ → Run σ → Prop}
    (accumulates : Accumulates relation)
    (each : ∀ {target run result next}, PropertyAttempt interpreter target run argument? result next →
      relation [target] run next) {targets : List (PropertyMatch σ)}
    (ran : PropertiesRun interpreter argument? targets run outcomes last) :
    relation targets run last := by
  induction ran with
  | nil run => exact accumulates.refl run
  | cons attempt rest inductionHypothesis =>
      exact accumulates.append (each attempt) inductionHypothesis

/-- For a state dump, operations are invoked without arguments. -/
theorem operationEntries_accumulate (accumulates : Accumulates relation)
    (each : ∀ target run, relation [target] run (interpreter.invoke target [] run).2) (path : Text)
    (targets : List (OperationMatch σ)) (run : Run σ) :
    relation targets run (interpreter.operationEntries path targets run).2 := by
  induction targets generalizing run with
  | nil => exact accumulates.refl run
  | cons target targets inductionHypothesis =>
      unfold operationEntries
      dsimp only
      split
      case h_1 => exact accumulates.mono (List.sublist_cons_self _ _) (inductionHypothesis run)
      case h_2 => split <;> exact accumulates.append (each target run) (inductionHypothesis _)

theorem collect_accumulate (accumulates : Accumulates relation)
    (each : ∀ target run, relation [target] run (interpreter.invoke target [] run).2)
    (entries : List (Text × Component σ)) (run : Run σ) :
    relation (entries.flatMap fun entry => reporters entry.2) run
      (interpreter.collect entries run).2 := by
  induction entries generalizing run with
  | nil => exact accumulates.refl run
  | cons entry entries inductionHypothesis =>
      exact accumulates.append
        (operationEntries_accumulate accumulates each entry.1 (reporters entry.2) run)
        (inductionHypothesis _)

end Accumulation

end Interpreter

end CommandLink
