import CommandLink.Proofs.Dispatch.Runs

/-!
# Calls of device code

The record of calls grows only at its end, and what a run adds to it is in the order of the matches,
at most one call for each of them (`Makes`). Every call has the values that the arguments of the
line convert to.
-/

namespace CommandLink

variable {σ : Type}

namespace Interpreter

/-- A call of the handler of a matched operation, on its converted arguments. -/
inductive Invokes (interpreter : Interpreter σ) (arguments : List Text) :
    Call → OperationMatch σ → Prop where
  | handler {target values} (converted : interpreter.Converts target.operation
        (arguments.zip target.operation.parameters) values) :
      Invokes interpreter arguments (.handler target.owner.identity target.place values) target

/-- A call that writes a matched property, with the converted argument. -/
inductive Writes (interpreter : Interpreter σ) (argument? : Option Text) :
    Call → PropertyMatch σ → Prop where
  | setter {target raw value} (given : argument? = some raw)
      (converted : Kind.convert target.property.converter?
        (interpreter.converter? target.property.name) raw target.property.kind = .ok value) :
      Writes interpreter argument? (.setter target.owner.identity target.place value) target
  | merge {target raw value} (given : argument? = some raw)
      (converted : Kind.convert target.property.converter?
        (interpreter.converter? target.property.name) raw target.property.kind = .ok value) :
      Writes interpreter argument? (.merge target.owner.identity target.place (listItems value))
        target

/-- The calls made between two runs are of some of the targets, in their order, and no more than one
of each. -/
def Makes {α : Type} (of : Call → α → Prop) (run next : Run σ) (targets : List α) : Prop :=
  ∃ made, next.calls = run.calls ++ made ∧ List.SublistForall₂ of made targets

namespace Makes

variable {α : Type} {of : Call → α → Prop} {run next last : Run σ} {targets more : List α}

/-- Nothing is called. -/
theorem nothing (same : next.calls = run.calls) (targets : List α) : Makes of run next targets :=
  ⟨[], by rw [same, List.append_nil], .nil⟩

theorem single {target : α} {call : Call} (called : next.calls = run.calls ++ [call])
    (holds : of call target) : Makes of run next [target] :=
  ⟨[call], called, .cons holds .nil⟩

theorem trans (first : Makes of run next targets) (second : Makes of next last more) :
    Makes of run last (targets ++ more) := by
  obtain ⟨made, called, within⟩ := first
  obtain ⟨later, calledLater, withinLater⟩ := second
  obtain ⟨chosen, each, sublist⟩ := List.sublistForall₂_iff.mp within
  obtain ⟨chosenLater, eachLater, sublistLater⟩ := List.sublistForall₂_iff.mp withinLater
  refine ⟨made ++ later, by rw [calledLater, called, List.append_assoc], ?_⟩
  exact List.sublistForall₂_iff.mpr
    ⟨chosen ++ chosenLater, List.rel_append each eachLater, sublist.append sublistLater⟩

/-- The targets may as well be among more. -/
theorem mono (makes : Makes of run next targets) (sublist : targets.Sublist more) :
    Makes of run next more := by
  obtain ⟨made, called, within⟩ := makes
  obtain ⟨chosen, each, among⟩ := List.sublistForall₂_iff.mp within
  exact ⟨made, called, List.sublistForall₂_iff.mpr ⟨chosen, each, among.trans sublist⟩⟩

theorem accumulates {α : Type} (of : Call → α → Prop) :
    Accumulates fun targets (run next : Run σ) => Makes of run next targets where
  refl _ := nothing rfl []
  append := trans
  mono sublist makes := makes.mono sublist

end Makes

variable {interpreter : Interpreter σ} {arguments : List Text} {argument? : Option Text}
  {run next last : Run σ} {outcomes : List Outcome}

theorem Attempt.makes {target : OperationMatch σ} {result : Except DispatchError Text}
    (attempt : Attempt interpreter arguments target run result next) :
    Makes (Invokes interpreter arguments) run next [target] := by
  cases attempt with
  | unconverted rejected => exact .nothing rfl _
  | late converted limited slow => exact .nothing rfl _
  | invoked converted prompt ran => exact .single rfl (.handler converted)

/-- Storing a value makes one call at most, of the setter or of the merge of the property. -/
theorem makes_store {target : PropertyMatch σ} {raw : Text} {value : Value}
    {result : Except Fault Unit} (given : argument? = some raw)
    (converted : Kind.convert target.property.converter?
      (interpreter.converter? target.property.name) raw target.property.kind = .ok value)
    (stored : interpreter.store target value run = (result, next)) :
    Makes (Writes interpreter argument?) run next [target] := by
  obtain rfl : (interpreter.store target value run).2 = next := congrArg Prod.snd stored
  unfold store
  split
  case h_1 access =>
    unfold mergeList
    dsimp only
    split
    · exact .single rfl (.merge given converted)
    · split
      · exact .single rfl (.merge given converted)
      · exact .nothing rfl _
  case h_2 => exact .nothing rfl _
  case h_3 => exact .single rfl (.setter given converted)

theorem PropertyAttempt.makes {target : PropertyMatch σ} {result : Except DispatchError Text}
    (attempt : PropertyAttempt interpreter target run argument? result next) :
    Makes (Writes interpreter argument?) run next [target] := by
  cases attempt with
  | read => exact .nothing rfl _
  | unconverted rejected => exact .nothing rfl _
  | refused converted failed => exact makes_store rfl converted failed
  | stored converted succeeded => exact makes_store rfl converted succeeded

/-- The operations of a resolution are called before its properties. -/
theorem ResolutionRun.makes {resolution : Resolution σ}
    (ran : ResolutionRun interpreter resolution run outcomes last) :
    ∃ middle, Makes (Invokes interpreter resolution.arguments) run middle resolution.operations ∧
      Makes (Writes interpreter resolution.arguments.head?) middle last resolution.properties := by
  cases ran with
  | cancelled tripped => exact ⟨run, .nothing rfl _, .nothing rfl _⟩
  | carried calm invoked accessed =>
      have makes := invoked.accumulate (Makes.accumulates _) Attempt.makes
      rw [Resolution.groups, List.flatten_splitBy] at makes
      exact ⟨_, makes, accessed.accumulate (Makes.accumulates _) PropertyAttempt.makes⟩

/-- For a state dump, operations are invoked without arguments. -/
theorem makes_invoke (interpreter : Interpreter σ) (target : OperationMatch σ) (run : Run σ) :
    Makes (Invokes interpreter []) run (interpreter.invoke target [] run).2 [target] := by
  unfold invoke
  dsimp only
  split
  · exact .nothing rfl _
  · exact .single rfl (.handler (interpreter.converts_nil target.operation))

theorem makes_collect (interpreter : Interpreter σ) (entries : List (Text × Component σ))
    (run : Run σ) :
    Makes (Invokes interpreter []) run (interpreter.collect entries run).2
      (entries.flatMap fun entry => reporters entry.2) :=
  collect_accumulate (Makes.accumulates _) interpreter.makes_invoke entries run

end Interpreter

end CommandLink
