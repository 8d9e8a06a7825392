import CommandLink.Guard.Condition

/-!
# Guards

A guard cancels a command while all its conditions hold. Of several guards one is enough.
-/

namespace CommandLink

/-- Conditions that together cancel a command, and what the operator is told then. -/
structure Guard where
  conditions : List Condition
  message? : Option Text := none
deriving DecidableEq

namespace Guard

/-- The guard with a single condition. -/
def ofCondition (path : Text) (operator : Operator) (value : Value) : Guard where
  conditions := [⟨path, operator, value⟩]

/-- Whether all conditions hold. A guard without conditions never trips. -/
def trips (read : Text → Option Value) (guard : Guard) : Bool :=
  !guard.conditions.isEmpty && guard.conditions.all (·.holds read)

/-- What the operator is told when the guard has cancelled `command`. -/
def describe (command : Text) (guard : Guard) : Text :=
  match guard.message? with
  | some message => message
  | none =>
      "Cannot execute " ++ command ++ " when " ++
        Text.join " and " (guard.conditions.map (·.display))

/-- What the first tripped guard says, if there is one. -/
def check (read : Text → Option Value) (command : Text) (guards : List Guard) : Option Text :=
  (guards.find? (·.trips read)).map (·.describe command)

end Guard

end CommandLink
