import CommandLink.Component.Basic

/-!
# Outcomes

What comes of a command: one outcome for each operation or property that it reached.
-/

namespace CommandLink

/-- Why an operation or property gave no result. -/
inductive DispatchError where
  | conversion (error : ConversionError)
  /-- A guard cancelled the command, saying this. -/
  | cancelled (message : Text)
  | execution (command message : Text)
  | timeout (command : Text) (limit : Nat)
deriving DecidableEq, Repr

/-- What the operator is told. -/
def DispatchError.message : DispatchError → Text
  | .conversion error => error.message
  | .cancelled message => message
  | .execution command message => "Execution error in " ++ command ++ ": " ++ message
  | .timeout command limit =>
      "Execution error in " ++ command ++ ": timed out after " ++ Text.ofNat limit ++ " ms"

/-- What came of one operation or property. -/
structure Outcome where
  command : Text
  result : Except DispatchError Text

namespace Outcome

/-- Whether it went well. -/
def isOk (outcome : Outcome) : Bool :=
  outcome.result.isOk

/-- The line that reports it: the result, or what went wrong. -/
def message (outcome : Outcome) : Text :=
  match outcome.result with
  | .ok text => text
  | .error error => error.message

end Outcome

/-- The severity of a notification. -/
inductive Severity where
  | information
  | error
deriving DecidableEq, Repr

/-- What subscribers are told of an outcome. -/
structure Notification where
  severity : Severity
  command : Text
  message : Text
deriving DecidableEq, Repr

/-- The notification of an outcome. -/
def Outcome.notification (outcome : Outcome) : Notification :=
  ⟨if outcome.isOk then .information else .error, outcome.command, outcome.message⟩

/-- The answer to a line. -/
structure Answer where
  /-- Whether anything was reached and all of it went well. -/
  success : Bool
  message : Text
deriving DecidableEq, Repr

end CommandLink
