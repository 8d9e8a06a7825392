import CommandLink.Interpreter.Basic
import CommandLink.Text.LetterCase

/-!
# Listings

What the built-in commands show: the commands there are, the state of the device as lines and as
JSON, and names that resemble an unknown one.
-/

namespace CommandLink

variable {σ : Type}

namespace Interpreter

/-- The signatures of the visible operations of a component, below its path. -/
def signatures (path : Text) (component : Component σ) : List Text :=
  (component.operations.filter (!·.hidden)).map fun operation => qualify path operation.signature

/-- The lines in order, without those that equal the line before them. -/
def dropRepeats : List Text → List Text
  | [] => []
  | [line] => [line]
  | line :: next :: rest =>
      if line = next then dropRepeats (next :: rest) else line :: dropRepeats (next :: rest)

/-- The lines of the command listing, in the order of their small letters. -/
def commandLines (components : List (Component σ)) : List Text :=
  dropRepeats
    (((Component.walk components).flatMap fun (path, component) => signatures path component).mergeSort
      fun left right => (compare left.toSmall right.toSmall).isLE)

/-- The command listing. -/
def commands (interpreter : Interpreter σ) : Text :=
  Text.join ['\n'] (commandLines interpreter.components)

/-- An entry of a state dump. -/
abbrev Entry := Text × Value

/-- The entries of the properties of a component that belong to state dumps. One that cannot be read
is left out. -/
def propertyEntries (path : Text) (component : Component σ) (state : σ) : List Entry :=
  (component.properties.filter (·.remoteState)).filterMap fun property =>
    (property.shown state).toOption.map fun value => (qualify path property.name, value)

/-- The operations of a component that belong to state dumps. -/
def reporters (component : Component σ) : List (OperationMatch σ) :=
  (component.operations.zipIdx.filter fun (operation, _) =>
    operation.remoteState && operation.parameters.isEmpty).map
    fun (operation, place) => ⟨component, place, operation⟩

/-- The entries of operations, invoked in order. One that a guard cancels or that fails is left
out. -/
def operationEntries (interpreter : Interpreter σ) (path : Text) :
    List (OperationMatch σ) → Run σ → List Entry × Run σ
  | [], run => ([], run)
  | target :: rest, run =>
      let operation := target.operation
      match Guard.check (target.owner.read run.state) operation.name operation.guards with
      | some _ => interpreter.operationEntries path rest run
      | none =>
          let (result, run) := interpreter.invoke target [] run
          let (later, run) := interpreter.operationEntries path rest run
          match result.bind (applyOutput operation.output? operation.name) with
          | .ok value => ((qualify path operation.name, value) :: later, run)
          | .error _ => (later, run)

/-- The entries of components in order, for each its properties and then its operations. -/
def collect (interpreter : Interpreter σ) :
    List (Text × Component σ) → Run σ → List Entry × Run σ
  | [], run => ([], run)
  | (path, component) :: rest, run =>
      let properties := propertyEntries path component run.state
      let (operations, run) := interpreter.operationEntries path (reporters component) run
      let (later, run) := interpreter.collect rest run
      (properties ++ operations ++ later, run)

/-- All entries of the state dump. -/
def stateEntries (interpreter : Interpreter σ) (run : Run σ) : List Entry × Run σ :=
  interpreter.collect (Component.walk interpreter.components) run

/-- The line of an entry. -/
def entryLine (entry : Entry) : Text :=
  entry.1 ++ ':' :: entry.2.render

/-- The state dump as lines. -/
def stateLines (interpreter : Interpreter σ) (run : Run σ) : Text × Run σ :=
  let (entries, run) := interpreter.stateEntries run
  (Text.join ['\n'] (entries.map entryLine), run)

/-- The state dump as a JSON object. Of several entries with one name the last stays. -/
def jsonState (interpreter : Interpreter σ) (run : Run σ) : Text × Run σ :=
  let (entries, run) := interpreter.stateEntries run
  (Value.compact (.object (Value.orderFields entries)), run)

/-- The names of a component's visible operations and its properties, each with its aliases. -/
def componentNames (component : Component σ) : List Text :=
  ((component.operations.filter (!·.hidden)).flatMap fun operation =>
    operation.name :: operation.aliases) ++
    component.properties.flatMap fun property => property.name :: property.aliases

/-- All names that may be suggested. -/
def knownNames (components : List (Component σ)) : List Text :=
  Builtin.all.map Builtin.name ++
    (Component.walk components).flatMap fun (_, component) => componentNames component

/-- The known names that resemble an input, best first. -/
def suggest (interpreter : Interpreter σ) (input : Text) : List Text :=
  Suggestion.rank input (knownNames interpreter.components)
    interpreter.options.suggestionThreshold interpreter.options.suggestionWindow

end Interpreter

end CommandLink
