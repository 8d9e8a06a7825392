import CommandLink.Interpreter.Dispatch

/-!
# Candidate readings

A line that is no built-in command may be read in several ways. `Target.candidates` lists them and
`Interpreter.tryTargets` goes through them one at a time, keeping account of those that it never
looks at. By `dispatchLine_eq_tryTargets` this is how a dispatch proceeds, although the state of the
device plays no part in the choice.
-/

namespace CommandLink

variable {σ : Type}

namespace Target

/-- The readings that a dispatch considers. A line without a command path has none. -/
def candidates (components : List (Component σ)) (line : Line) : List (Target σ) :=
  if line.segments.isEmpty then [] else ofLine components line

/-- A target matches at least one operation or property. -/
def Matches (target : Target σ) : Prop :=
  target.operations ≠ [] ∨ target.properties ≠ []

/-- All that a target means, also when it matches nothing. -/
def resolution (target : Target σ) : Resolution σ :=
  ⟨target.command, target.arguments, target.operations, target.properties⟩

theorem resolve?_of_matches {target : Target σ} (matched : target.Matches) :
    target.resolve? = some target.resolution := by
  unfold resolve?
  rcases matched with operations | properties
  · simp [operations, resolution]
  · simp [properties, resolution]

theorem resolve?_of_not_matches {target : Target σ} (unmatched : ¬ target.Matches) :
    target.resolve? = none := by
  simp only [Matches, not_or, ne_eq, Classical.not_not] at unmatched
  simp [resolve?, unmatched]

/-- What a line means is what the first of its candidates that matches anything means. -/
theorem ofLine?_eq_findSome? (components : List (Component σ)) (line : Line) :
    Resolution.ofLine? components line = (candidates components line).findSome? (·.resolve?) := by
  unfold Resolution.ofLine? candidates
  split <;> rfl

end Target

namespace Interpreter

/-- Try targets in turn. The first that matches anything is carried out, and those after it are
handed back untried. -/
def tryTargets (interpreter : Interpreter σ) :
    List (Target σ) → Run σ → List Outcome × Run σ × List (Target σ)
  | [], run => ([], run, [])
  | target :: rest, run =>
      match target.resolve? with
      | some resolution =>
          let (outcomes, run) := interpreter.perform resolution run
          (outcomes, run, rest)
      | none => interpreter.tryTargets rest run

/-- Targets that match nothing are passed over without any effect. -/
theorem tryTargets_append (interpreter : Interpreter σ) {earlier : List (Target σ)}
    (unmatched : ∀ target ∈ earlier, ¬ target.Matches) (rest : List (Target σ)) (run : Run σ) :
    interpreter.tryTargets (earlier ++ rest) run = interpreter.tryTargets rest run := by
  induction earlier with
  | nil => rfl
  | cons target earlier inductionHypothesis =>
      have skipped := Target.resolve?_of_not_matches (unmatched target List.mem_cons_self)
      simp only [List.cons_append, tryTargets, skipped]
      exact inductionHypothesis fun other member =>
        unmatched other (List.mem_cons_of_mem _ member)

/-- The first target that matches is carried out, whatever comes after it. -/
theorem tryTargets_cons (interpreter : Interpreter σ) {target : Target σ}
    (matched : target.Matches) (rest : List (Target σ)) (run : Run σ) :
    interpreter.tryTargets (target :: rest) run =
      ((interpreter.perform target.resolution run).1,
        (interpreter.perform target.resolution run).2, rest) := by
  simp only [tryTargets, Target.resolve?_of_matches matched]

theorem tryTargets_eq_findSome? (interpreter : Interpreter σ) (targets : List (Target σ))
    (run : Run σ) :
    ((interpreter.tryTargets targets run).1, (interpreter.tryTargets targets run).2.1) =
      match targets.findSome? (·.resolve?) with
      | some resolution => interpreter.perform resolution run
      | none => ([], run) := by
  induction targets with
  | nil => rfl
  | cons target rest inductionHypothesis =>
      cases resolved : target.resolve? with
      | some resolution => simp [tryTargets, resolved]
      | none => simpa [tryTargets, resolved] using inductionHypothesis

/-- A line that is no built-in command is dispatched by trying its candidates in turn. -/
theorem dispatchLine_eq_tryTargets (interpreter : Interpreter σ) {line : Line}
    (ordinary : Builtin.ofLine? line = none) (run : Run σ) :
    interpreter.dispatchLine line run =
      let tried := interpreter.tryTargets (Target.candidates interpreter.components line) run
      (tried.1, tried.2.1) := by
  have tried :=
    interpreter.tryTargets_eq_findSome? (Target.candidates interpreter.components line) run
  rw [← Target.ofLine?_eq_findSome?] at tried
  simp only [dispatchLine, ordinary]
  exact tried.symm

/-- A line means what the first of its candidates means that matches anything. -/
theorem dispatchLine_eq_perform (interpreter : Interpreter σ) {line : Line}
    {earlier later : List (Target σ)} {target : Target σ}
    (ordinary : Builtin.ofLine? line = none)
    (listed : Target.candidates interpreter.components line = earlier ++ target :: later)
    (unmatched : ∀ other ∈ earlier, ¬ other.Matches) (matched : target.Matches) (run : Run σ) :
    interpreter.dispatchLine line run = interpreter.perform target.resolution run := by
  rw [interpreter.dispatchLine_eq_tryTargets ordinary, listed,
    interpreter.tryTargets_append unmatched, interpreter.tryTargets_cons matched]

end Interpreter

end CommandLink
