import CommandLink.Interpreter.Listing

/-!
# Dispatch

From a request line to its outcomes, and from those to an answer.
-/

namespace CommandLink

variable {σ : Type}

namespace Interpreter

/-- The result of a built-in command. -/
def runBuiltin (interpreter : Interpreter σ) (builtin : Builtin) (run : Run σ) : Text × Run σ :=
  match builtin with
  | .help | .questionMark | .getCommands => (interpreter.commands, run)
  | .state | .getState => interpreter.stateLines run
  | .getJsonState => interpreter.jsonState run

/-- Carry out a line that has been taken apart. -/
def dispatchLine (interpreter : Interpreter σ) (line : Line) (run : Run σ) :
    List Outcome × Run σ :=
  match Builtin.ofLine? line with
  | some builtin =>
      let (text, run) := interpreter.runBuiltin builtin run
      ([⟨builtin.name, .ok text⟩], run)
  | none =>
      match Resolution.ofLine? interpreter.components line with
      | some resolution => interpreter.perform resolution run
      | none => ([], run)

/-- Carry out a request line. There are no outcomes if it matches nothing. -/
def dispatch (interpreter : Interpreter σ) (input : Text) (run : Run σ) : List Outcome × Run σ :=
  interpreter.dispatchLine (Line.parse input) run

/-- What an unknown command is answered: a question after similar names, if that is wanted and
there are any. -/
def unresolvedMessage (interpreter : Interpreter σ) (input : Text) : Text :=
  if interpreter.options.suggestions then
    match interpreter.suggest (Line.parse input).name with
    | [] => []
    | names => "Did you mean " ++ Text.join " or " names ++ "?"
  else []

/-- Carry out a request line and answer it. Subscribers are to be notified of the outcomes. -/
def interpret (interpreter : Interpreter σ) (input : Text) (run : Run σ) :
    Answer × List Outcome × Run σ :=
  match interpreter.dispatch input run with
  | ([], run) => (⟨false, interpreter.unresolvedMessage input⟩, [], run)
  | (outcomes, run) => (Answer.ofOutcomes outcomes, outcomes, run)

end Interpreter

end CommandLink
