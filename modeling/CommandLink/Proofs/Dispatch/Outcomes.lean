import CommandLink.Interpreter.Session
import CommandLink.Proofs.Dispatch.Calls
import Mathlib.Data.List.Pairwise

/-!
# Outcomes of a dispatch

What a dispatch reports when no guard is in the way: for each block of operations of one owner the
first success or all failures, and then one outcome for each property (`TargetRun`). No failure
keeps a later block or property from being tried, every subscriber is notified of each outcome in
order, and the answer to the line is a success exactly if there are outcomes and all of them are
(`dispatch_outcomes`).
-/

namespace CommandLink

variable {σ : Type}

/-- Operations in blocks of neighbours, each of one owner and as long as can be. -/
structure OwnerBlocks (operations : List (OperationMatch σ))
    (blocks : List (List (OperationMatch σ))) : Prop where
  whole : blocks.flatten = operations
  filled : ∀ block ∈ blocks, block ≠ []
  owned : ∀ block ∈ blocks, ∀ left ∈ block, ∀ right ∈ block,
    left.owner.identity = right.owner.identity
  /-- Two blocks next to each other are of different owners. -/
  maximal : blocks.IsChain fun block next => ∀ left ∈ block, ∀ right ∈ next,
    left.owner.identity ≠ right.owner.identity

/-- Neighbours that all have the same owner as the next are all of one owner. -/
theorem eq_owner_of_isChain {block : List (OperationMatch σ)}
    (chain : block.IsChain fun left right => Interpreter.sameOwner left right = true)
    {left right : OperationMatch σ} (memberLeft : left ∈ block) (memberRight : right ∈ block) :
    left.owner.identity = right.owner.identity := by
  have identities : (block.map (·.owner.identity)).IsChain (· = ·) :=
    (List.isChain_map _).mpr (chain.imp fun _ _ same => by simpa [Interpreter.sameOwner] using same)
  exact identities.pairwise.forall_of_forall (fun _ _ => rfl) (List.mem_map_of_mem memberLeft)
    (List.mem_map_of_mem memberRight)

/-- There is one way to divide operations into such blocks. -/
theorem ownerBlocks_iff {operations : List (OperationMatch σ)}
    {blocks : List (List (OperationMatch σ))} :
    OwnerBlocks operations blocks ↔ operations.splitBy Interpreter.sameOwner = blocks := by
  rw [List.splitBy_eq_iff]
  constructor
  · intro divided
    refine ⟨divided.whole.symm, fun empty => divided.filled [] empty rfl, ?_, ?_⟩
    · intro block member
      refine (List.pairwise_of_forall_mem_list fun left memberLeft right memberRight => ?_).isChain
      simpa [Interpreter.sameOwner] using
        divided.owned block member left memberLeft right memberRight
    · refine divided.maximal.imp_of_mem_imp fun block next member memberNext differs => ?_
      refine ⟨divided.filled block member, divided.filled next memberNext, ?_⟩
      simpa [Interpreter.sameOwner] using
        differs _ (List.getLast_mem _) _ (List.head_mem _)
  · rintro ⟨rfl, filled, chained, apart⟩
    have owned : ∀ block ∈ blocks, ∀ left ∈ block, ∀ right ∈ block,
        left.owner.identity = right.owner.identity :=
      fun block member _ memberLeft _ memberRight =>
        eq_owner_of_isChain (chained block member) memberLeft memberRight
    refine ⟨rfl, fun block member empty => filled (empty ▸ member), owned, ?_⟩
    refine apart.imp_of_mem_imp fun block next member memberNext ends => ?_
    obtain ⟨filledBlock, filledNext, differs⟩ := ends
    intro left memberLeft right memberRight
    -- Only the last of a block and the first of the next are compared; they stand for all.
    rw [owned block member left memberLeft _ (List.getLast_mem filledBlock),
      owned next memberNext right memberRight _ (List.head_mem filledNext)]
    simpa [Interpreter.sameOwner] using differs

theorem ownerBlocks_groups (resolution : Resolution σ) :
    OwnerBlocks resolution.operations resolution.groups :=
  ownerBlocks_iff.mpr rfl

namespace Target

/-- If one of the operations of the name is overriding, only those that are remain. -/
theorem overriding_of_mem_operations {target : Target σ} {matched : OperationMatch σ}
    (overridden : ∃ other ∈ target.owners.flatMap target.operationsOf,
      other.operation.overriding = true)
    (member : matched ∈ target.operations) : matched.operation.overriding = true := by
  have some_overriding :
      (target.owners.flatMap target.operationsOf).any (·.operation.overriding) = true :=
    List.any_eq_true.mpr overridden
  rw [operations, if_pos some_overriding] at member
  exact (List.mem_filter.mp member).2

/-- Overriding operations take the place of others, so that some are left where there were any. -/
theorem operations_ne_nil {target : Target σ}
    (matched : target.owners.flatMap target.operationsOf ≠ []) : target.operations ≠ [] := by
  unfold operations
  dsimp only
  split
  case isTrue overridden =>
    obtain ⟨other, member, overriding⟩ := List.any_eq_true.mp overridden
    exact List.ne_nil_of_mem (List.mem_filter.mpr ⟨member, overriding⟩)
  case isFalse => exact matched

end Target

namespace Interpreter

/-- What comes of a target no guard of which trips: its operations run in blocks of neighbours of
one owner, and then its properties are read or written. -/
inductive TargetRun (interpreter : Interpreter σ) (target : Target σ) (run : Run σ) :
    List Outcome → Run σ → Prop where
  | intro {blocks blockOutcomes propertyOutcomes middle last}
      (blocked : OwnerBlocks target.operations blocks)
      (invoked : BlocksRun interpreter target.arguments blocks run blockOutcomes middle)
      (accessed : PropertiesRun interpreter target.arguments.head? target.properties middle
        propertyOutcomes last) :
      TargetRun interpreter target run (blockOutcomes.flatten ++ propertyOutcomes) last

theorem targetRun_of_perform {interpreter : Interpreter σ} {target : Target σ} {run last : Run σ}
    {outcomes : List Outcome} (calm : ¬ target.Tripped run.state)
    (performed : interpreter.perform target.resolution run = (outcomes, last)) :
    TargetRun interpreter target run outcomes last := by
  cases resolutionRun_of_perform performed with
  | cancelled tripped =>
      rw [Target.tripped?_eq_none calm] at tripped
      cases tripped
  | carried _ invoked accessed =>
      exact .intro (ownerBlocks_groups target.resolution) invoked accessed

section Filled

variable {interpreter : Interpreter σ} {arguments : List Text} {run last : Run σ}
  {outcomes : List Outcome}

theorem BlockRun.outcomes_ne_nil {block : List (OperationMatch σ)} (filled : block ≠ [])
    (ran : BlockRun interpreter arguments block run outcomes last) : outcomes ≠ [] := by
  cases ran with
  | success => exact List.cons_ne_nil _ _
  | failure failed =>
      cases failed with
      | nil => exact absurd rfl filled
      | cons => exact List.cons_ne_nil _ _

theorem BlocksRun.outcomes_ne_nil {blocks : List (List (OperationMatch σ))}
    {blockOutcomes : List (List Outcome)} (some_block : blocks ≠ [])
    (filled : ∀ block ∈ blocks, block ≠ [])
    (ran : BlocksRun interpreter arguments blocks run blockOutcomes last) :
    blockOutcomes.flatten ≠ [] := by
  cases ran with
  | nil => exact absurd rfl some_block
  | cons first rest =>
      exact List.append_ne_nil_of_left_ne_nil (first.outcomes_ne_nil (filled _ List.mem_cons_self)) _

theorem PropertiesRun.outcomes_ne_nil {argument? : Option Text} {targets : List (PropertyMatch σ)}
    (filled : targets ≠ [])
    (ran : PropertiesRun interpreter argument? targets run outcomes last) : outcomes ≠ [] := by
  cases ran with
  | nil => exact absurd rfl filled
  | cons => exact List.cons_ne_nil _ _

/-- Where anything matches there are outcomes: a tripped guard is reported, and everything that is
tried either succeeds or fails. -/
theorem perform_outcomes_ne_nil {target : Target σ} (matched : target.Matches) (run : Run σ) :
    (interpreter.perform target.resolution run).1 ≠ [] := by
  have divided := ownerBlocks_groups target.resolution
  cases performed : interpreter.perform target.resolution run with
  | mk outcomes last =>
      cases resolutionRun_of_perform performed with
      | cancelled => exact List.cons_ne_nil _ _
      | carried _ invoked accessed =>
          rcases matched with operations | properties
          · have some_block : target.resolution.groups ≠ [] := by
              intro none
              have whole := divided.whole
              rw [none, List.flatten_nil] at whole
              exact operations whole.symm
            exact List.append_ne_nil_of_left_ne_nil
              (invoked.outcomes_ne_nil some_block divided.filled) _
          · exact List.append_ne_nil_of_right_ne_nil _ (accessed.outcomes_ne_nil properties)

end Filled

/-- Nothing comes of interpreting a line but what comes of dispatching it, and the answer is a success
if there are outcomes and all of them are. -/
theorem interpret_spec (interpreter : Interpreter σ) (input : Text) (run : Run σ) :
    (interpreter.interpret input run).2 = interpreter.dispatch input run ∧
      ((interpreter.interpret input run).1.success = true ↔
        (interpreter.dispatch input run).1 ≠ [] ∧
          ∀ outcome ∈ (interpreter.dispatch input run).1, outcome.isOk = true) := by
  unfold interpret
  split
  case h_1 dispatched => simp [dispatched]
  case h_2 outcomes last filled dispatched =>
    have some_outcome : outcomes ≠ [] := by
      rintro rfl
      exact filled rfl
    simp [dispatched, Answer.ofOutcomes, some_outcome]

/-- What is announced of an outcome: the command, with its result as information or with what went
wrong as an error. -/
inductive Announces : Outcome → Notification → Prop where
  | success (command text : Text) :
      Announces ⟨command, .ok text⟩ ⟨.information, command, text⟩
  | failure (command : Text) (error : DispatchError) :
      Announces ⟨command, .error error⟩ ⟨.error, command, error.message⟩

theorem announces_notification (outcome : Outcome) : Announces outcome outcome.notification := by
  obtain ⟨command, result⟩ := outcome
  cases result with
  | ok text => exact .success command text
  | error error => exact .failure command error

section Notified

variable {subscribers : List Subscriber}

/-- Subscribers who are there receive one notification after the other. -/
theorem foldl_notify_of_present (outcomes : List Outcome)
    (present : ∀ subscriber ∈ subscribers, subscriber.present = true) :
    outcomes.foldl (fun subscribers outcome => outcome.notify subscribers) subscribers =
      subscribers.map (·.receive (outcomes.map (·.notification))) := by
  induction outcomes generalizing subscribers with
  | nil => simp [Subscriber.receive]
  | cons outcome outcomes inductionHypothesis =>
      have notified : outcome.notify subscribers =
          subscribers.map (·.receive [outcome.notification]) := by
        rw [Outcome.notify, List.filter_eq_self.mpr present]
      have presentStill : ∀ subscriber ∈ outcome.notify subscribers,
          subscriber.present = true := by
        rw [notified]
        exact List.forall_mem_map.mpr present
      rw [List.foldl_cons, inductionHypothesis presentStill, notified]
      simp [Subscriber.receive]

/-- Those who have left are forgotten with the first outcome. -/
theorem foldl_notify {outcomes : List Outcome} (filled : outcomes ≠ [])
    (subscribers : List Subscriber) :
    outcomes.foldl (fun subscribers outcome => outcome.notify subscribers) subscribers =
      (subscribers.filter (·.present)).map (·.receive (outcomes.map (·.notification))) := by
  have present : ∀ subscriber ∈ subscribers.filter (·.present), subscriber.present = true :=
    fun _ member => (List.mem_filter.mp member).2
  obtain ⟨first, later, rfl⟩ := List.exists_cons_of_ne_nil filled
  rw [← foldl_notify_of_present _ present, List.foldl_cons, List.foldl_cons]
  simp [Outcome.notify]

/-- A session goes on with the state at the end of what it interprets, and with its subscribers
notified. -/
theorem Session.interpret_eq (session : Session σ) (input : Text)
    {outcomes : List Outcome} {last : Run σ}
    (interpreted : (session.interpreter.interpret input session.run).2 = (outcomes, last))
    (filled : outcomes ≠ []) :
    session.interpret input = ((session.interpreter.interpret input session.run).1,
      { session with
        world := last.state
        subscribers := (session.subscribers.filter (·.present)).map fun subscriber =>
          { subscriber with
            received := subscriber.received ++ outcomes.map (·.notification) } }) := by
  cases answered : session.interpreter.interpret input session.run with
  | mk answer rest =>
      obtain rfl : rest = (outcomes, last) := by rw [← interpreted, answered]
      simp only [Session.interpret, answered, Session.resume, foldl_notify filled,
        Subscriber.receive]

end Notified

/-- What a line reports whose first matching target is not held up by a guard. In a session each of the
outcomes is announced once, in their order, to all subscribers who are still there. -/
theorem dispatch_outcomes (interpreter : Interpreter σ) (input : Text) (run : Run σ)
    {earlier later : List (Target σ)} {target : Target σ}
    (ordinary : Builtin.ofLine? (Line.parse input) = none)
    (listed : Target.candidates interpreter.components (Line.parse input) =
      earlier ++ target :: later)
    (unmatched : ∀ other ∈ earlier, ¬ other.Matches)
    (matched : target.Matches) (calm : ¬ target.Tripped run.state) :
    ∃ outcomes last, interpreter.dispatch input run = (outcomes, last) ∧
      TargetRun interpreter target run outcomes last ∧
      (∃ middle, Makes (Invokes interpreter target.arguments) run middle target.operations ∧
        Makes (Writes interpreter target.arguments.head?) middle last target.properties) ∧
      ((∃ other ∈ target.owners.flatMap target.operationsOf, other.operation.overriding = true) →
        ∀ matched ∈ target.operations, matched.operation.overriding = true) ∧
      (interpreter.interpret input run).2 = (outcomes, last) ∧
      ((interpreter.interpret input run).1.success = true ↔
        outcomes ≠ [] ∧ ∀ outcome ∈ outcomes, outcome.isOk = true) ∧
      (∀ outcome ∈ outcomes, Announces outcome outcome.notification) ∧
      ∀ session : Session σ, session.interpreter = interpreter → session.run = run →
        session.interpret input = ((interpreter.interpret input run).1,
          { session with
            world := last.state
            subscribers := (session.subscribers.filter (·.present)).map fun subscriber =>
              { subscriber with
                received := subscriber.received ++ outcomes.map (·.notification) } }) := by
  have dispatched : interpreter.dispatch input run =
      interpreter.perform target.resolution run := by
    rw [dispatch, interpreter.dispatchLine_eq_tryTargets ordinary, listed,
      interpreter.tryTargets_append unmatched, interpreter.tryTargets_cons matched]
  have filled : (interpreter.perform target.resolution run).1 ≠ [] :=
    perform_outcomes_ne_nil matched run
  obtain ⟨interpreted, answered⟩ := interpreter.interpret_spec input run
  cases performed : interpreter.perform target.resolution run with
  | mk outcomes last =>
      rw [performed] at dispatched filled
      rw [dispatched] at interpreted answered
      refine ⟨outcomes, last, dispatched, targetRun_of_perform calm performed,
        (resolutionRun_of_perform performed).makes,
        fun overridden _ member => Target.overriding_of_mem_operations overridden member,
        interpreted, answered, fun outcome _ => announces_notification outcome, ?_⟩
      rintro session rfl rfl
      exact session.interpret_eq input interpreted filled

/-- Two shutters. The first has three ways to shoot, of which the first is jammed; the other shutter
is stuck. The state counts the shots. -/
def shutters : Interpreter Nat where
  components :=
    let shoot (result : Except Fault Value) (shots : Nat) : Operation Nat :=
      { name := "Shoot", handler := fun _ _ before => (result, before + shots) }
    [{ identity := 0
       name := "Front"
       operations :=
        [shoot (.error (.error "jammed")) 0, shoot (.ok .null) 1, shoot (.ok .null) 100] },
      { identity := 1
        name := "Back"
        operations := [shoot (.error (.panic (some "stuck"))) 0] }]

/-- The front shutter shoots once, the second way, and the failure of the other is reported after
it. Both are announced to the subscriber who has not left. -/
theorem targetRun_shutters :
    let session : Session Nat :=
      { interpreter := shutters, world := 0, subscribers := [{ present := false }, {}] }
    TargetRun shutters ⟨shutters.components, "Shoot", []⟩ { state := 0 }
        [⟨"Shoot", .ok "Shoot"⟩,
          ⟨"Shoot", .error (.execution "Shoot" "handler panicked: stuck")⟩]
        { state := 1, calls := [.handler 0 0 [], .handler 0 1 [], .handler 1 0 []] } ∧
      (session.interpret "Shoot").1.success = false ∧
      (session.interpret "Shoot").2 =
        { session with
          world := 1
          subscribers := [{ received := [
            ⟨.information, "Shoot", "Shoot"⟩,
            ⟨.error, "Shoot", "Execution error in Shoot: handler panicked: stuck"⟩] }] } := by
  intro session
  let target : Target Nat := ⟨shutters.components, "Shoot", []⟩
  have ordinary : Builtin.ofLine? (Line.parse "Shoot") = none := by decide
  have listed : Target.candidates shutters.components (Line.parse "Shoot") =
      [] ++ target :: [] := rfl
  have matched : target.Matches := .inl (List.cons_ne_nil _ _)
  have calm : ¬ target.Tripped 0 := by
    intro tripped
    obtain ⟨checkpoint, first⟩ := tripped.exists_first
    have unguarded : target.checkpoints = [] := rfl
    rw [unguarded] at first
    cases first
  obtain ⟨outcomes, last, dispatched, ran, _, _, _, _, _, notified⟩ :=
    shutters.dispatch_outcomes "Shoot" { state := 0 } ordinary listed (by simp) matched calm
  cases dispatched
  rw [notified session rfl rfl]
  exact ⟨ran, rfl, rfl⟩

end Interpreter

end CommandLink
