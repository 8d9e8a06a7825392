import CommandLink.Value.Order
import CommandLink.Value.Reader

/-!
# Conditions

One comparison of a live property with a fixed value, such as `IsRecording == true`.
-/

namespace CommandLink

/-- A relational operator. -/
inductive Operator where
  | lt
  | gt
  | le
  | ge
  | eq
  | ne
deriving DecidableEq, Repr

namespace Operator

/-- How an operator is written. -/
def symbol : Operator → Text
  | .lt => "<"
  | .gt => ">"
  | .le => "<="
  | .ge => ">="
  | .eq => "=="
  | .ne => "!="

/-- Whether an operator holds of two values that compare in this way. -/
def accepts : Operator → Ordering → Bool
  | .lt, order => order == .lt
  | .gt, order => order == .gt
  | .le, order => order != .gt
  | .ge, order => order != .lt
  | .eq, order => order == .eq
  | .ne, order => order != .eq

/-- The operator at the front of a text, the longer one if two are, and what follows it. -/
def leading? : Text → Option (Operator × Text)
  | '<' :: '=' :: rest => some (.le, rest)
  | '>' :: '=' :: rest => some (.ge, rest)
  | '=' :: '=' :: rest => some (.eq, rest)
  | '!' :: '=' :: rest => some (.ne, rest)
  | '<' :: rest => some (.lt, rest)
  | '>' :: rest => some (.gt, rest)
  | _ => none

/-- The text before the first operator, the operator, and the text after it. -/
def split? (text : Text) : Option (Text × Operator × Text) :=
  match leading? text with
  | some (operator, rest) => some ([], operator, rest)
  | none =>
      match text with
      | [] => none
      | c :: rest => (split? rest).map fun (before, operator, after) => (c :: before, operator, after)

end Operator

/-- A comparison of the property at `path` with `value`. -/
structure Condition where
  path : Text
  operator : Operator
  value : Value
deriving DecidableEq

/-- A text that is no condition. -/
structure ConditionError where
  text : Text
deriving DecidableEq, Repr

/-- What the author of a condition is told. -/
def ConditionError.message (error : ConditionError) : Text :=
  "invalid cancel condition '" ++ error.text ++ "': expected `<path> <op> <value>`"

namespace Condition

/-- Read a condition: a path, the first operator, and a value. A value that is not JSON is a
string. -/
def parse (text : Text) : Except ConditionError Condition :=
  match Operator.split? text with
  | none => .error ⟨text⟩
  | some (before, operator, after) =>
      let path := Text.trim before
      let raw := Text.trim after
      if path.isEmpty || raw.isEmpty then .error ⟨text⟩
      else .ok ⟨path, operator, (Value.read? raw).getD (.string raw)⟩

/-- How a condition is shown. -/
def display (condition : Condition) : Text :=
  condition.path ++ ' ' :: (condition.operator.symbol ++ ' ' :: condition.value.render)

/-- Whether a condition holds of the properties that `read` gives. It does not hold of one that
cannot be read. -/
def holds (read : Text → Option Value) (condition : Condition) : Bool :=
  match read condition.path with
  | some actual => condition.operator.accepts (actual.order condition.value)
  | none => false

end Condition

end CommandLink
