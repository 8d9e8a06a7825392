import CommandLink.Interpreter.Outcome
import CommandLink.Interpreter.Resolution
import CommandLink.Suggestion.Rank

/-!
# Interpreters

An interpreter holds the registered components and carries out what lines mean. A run carries the
state of the device, the time that has passed, and a record of the device code that was called.
-/

namespace CommandLink

/-- How an interpreter answers. -/
structure InterpreterOptions where
  /-- Answer unknown commands with similar names. -/
  suggestions : Bool := false
  suggestionThreshold : Double := Suggestion.defaultThreshold
  suggestionWindow : Double := Suggestion.defaultWindow
  /-- How many milliseconds an operation may take. -/
  invokeTimeout? : Option Nat := none
deriving DecidableEq

/-- Who carries out the merging of lists. It may do something of its own first, and may leave the
merge undone. -/
structure Dispatcher (σ : Type) where
  enter : σ → σ
  runs : Bool

/-- An interpreter. -/
structure Interpreter (σ : Type) where
  options : InterpreterOptions := {}
  components : List (Component σ) := []
  /-- Converters under the names of parameters, in small letters. -/
  converters : List (Text × Converter) := []
  dispatcher? : Option (Dispatcher σ) := none

/-- A call of device code, with the identity of the component and the place among its operations or
properties. -/
inductive Call where
  | handler (owner place : Nat) (arguments : List Value)
  | setter (owner place : Nat) (value : Value)
  | merge (owner place : Nat) (items : List Value)
deriving DecidableEq

/-- How far a run has come. -/
structure Run (σ : Type) where
  state : σ
  /-- Milliseconds since the run began. -/
  elapsed : Nat := 0
  /-- The calls so far, in order. -/
  calls : List Call := []

/-- The message joined of the lines of outcomes. -/
def Answer.ofOutcomes (outcomes : List Outcome) : Answer :=
  ⟨!outcomes.isEmpty && outcomes.all (·.isOk), Text.join ['\n'] (outcomes.map (·.message))⟩

variable {σ : Type}

namespace Interpreter

/-- Register a component, in the place of an earlier registration of the same one. -/
def register (interpreter : Interpreter σ) (component : Component σ) : Interpreter σ :=
  let replaced := interpreter.components.any (·.identity == component.identity)
  { interpreter with
    components :=
      if replaced then
        interpreter.components.map fun old =>
          if old.identity == component.identity then component else old
      else interpreter.components ++ [component] }

/-- Remove the registration of a component. -/
def unregister (interpreter : Interpreter σ) (identity : Nat) : Interpreter σ :=
  { interpreter with components := interpreter.components.filter (·.identity != identity) }

/-- Use a converter for all parameters and properties of a name, in any letter case. -/
def addConverter (interpreter : Interpreter σ) (name : Text) (converter : Converter) :
    Interpreter σ :=
  { interpreter with converters := (name.toSmall, converter) :: interpreter.converters }

/-- The converter for a name. -/
def converter? (interpreter : Interpreter σ) (name : Text) : Option Converter :=
  interpreter.converters.lookup name.toSmall

/-- Which texts name an operation. -/
def directory (interpreter : Interpreter σ) : Directory :=
  hasOperation interpreter.components

/-- Convert the arguments of an operation in order, up to the first that cannot be. -/
def convertArguments (interpreter : Interpreter σ) (operation : Operation σ) :
    List Text → List Parameter → Except ConversionError (List Value)
  | raw :: arguments, parameter :: parameters => do
      let value ←
        Kind.convert operation.converter? (interpreter.converter? parameter.name) raw parameter.kind
      let values ← interpreter.convertArguments operation arguments parameters
      return value :: values
  | _, _ => return []

/-- Invoke an operation. It runs only if its delay ends within the time limit. -/
def invoke (interpreter : Interpreter σ) (target : OperationMatch σ) (arguments : List Value)
    (run : Run σ) : Except DispatchError Value × Run σ :=
  let operation := target.operation
  match interpreter.options.invokeTimeout?.filter (· ≤ operation.delay) with
  | some limit =>
      (.error (.timeout operation.name limit), { run with elapsed := run.elapsed + limit })
  | none =>
      let (result, state) := operation.handler interpreter.directory arguments run.state
      ((result.mapError fun fault => .execution operation.name fault.message),
        { state
          elapsed := run.elapsed + operation.delay
          calls := run.calls ++ [.handler target.owner.identity target.place arguments] })

/-- Apply an output conversion. -/
def applyOutput (output? : Option Output) (command : Text) (value : Value) :
    Except DispatchError Value :=
  match output? with
  | some output => (output value).mapError fun fault => .execution command fault.message
  | none => .ok value

/-- The text of an operation's result: its own name if there is no value. -/
def resultText (operation : Operation σ) (value : Value) : Text :=
  let text :=
    match value with
    | .null => operation.name
    | value => value.render
  match operation.label? with
  | some label => label ++ ':' :: text
  | none => text

/-- Convert the arguments, invoke an operation, and show its result. -/
def runOperation (interpreter : Interpreter σ) (target : OperationMatch σ) (arguments : List Text)
    (run : Run σ) : Except DispatchError Text × Run σ :=
  let operation := target.operation
  match interpreter.convertArguments operation arguments operation.parameters with
  | .error error => (.error (.conversion error), run)
  | .ok values =>
      let (result, run) := interpreter.invoke target values run
      ((result.bind (applyOutput operation.output? operation.name)).map (resultText operation), run)

/-- The text that shows a property: its name and its value. -/
def showProperty (property : Property σ) (state : σ) : Except DispatchError Text :=
  match property.shown state with
  | .ok value => .ok (property.name ++ ':' :: value.render)
  | .error fault => .error (.execution property.name fault.message)

/-- The items that a value makes of a list: those of an array, or itself as the only one. -/
def listItems : Value → List Value
  | .array items => items
  | value => [value]

/-- Merge items into a list, through the dispatcher if there is one. -/
def mergeList (interpreter : Interpreter σ) (target : PropertyMatch σ) (access : ListAccess σ)
    (items : List Value) (run : Run σ) : Except Fault Unit × Run σ :=
  let merged (state : σ) : Except Fault Unit × Run σ :=
    let (result, state) := access.makeEqual items state
    (result,
      { run with
        state
        calls := run.calls ++ [.merge target.owner.identity target.place items] })
  match interpreter.dispatcher? with
  | none => merged run.state
  | some dispatcher =>
      if dispatcher.runs then merged (dispatcher.enter run.state)
      else
        (.error (.error "dispatcher did not run the list update"),
          { run with state := dispatcher.enter run.state })

/-- Store a converted value in a property. -/
def store (interpreter : Interpreter σ) (target : PropertyMatch σ) (value : Value) (run : Run σ) :
    Except Fault Unit × Run σ :=
  match target.property.access with
  | .list access => interpreter.mergeList target access (listItems value) run
  | .scalar _ none => (.error (.error (target.property.name ++ " is read-only")), run)
  | .scalar _ (some set) =>
      let (result, state) := set value run.state
      (result,
        { run with
          state
          calls := run.calls ++ [.setter target.owner.identity target.place value] })

/-- Convert an argument, store it in a property, and show the property. -/
def setProperty (interpreter : Interpreter σ) (target : PropertyMatch σ) (raw : Text)
    (run : Run σ) : Except DispatchError Text × Run σ :=
  let property := target.property
  match Kind.convert property.converter? (interpreter.converter? property.name) raw property.kind with
  | .error error => (.error (.conversion error), run)
  | .ok value =>
      match interpreter.store target value run with
      | (.error fault, run) => (.error (.execution property.name fault.message), run)
      | (.ok (), run) => (showProperty property run.state, run)

/-- Invoke the operations of one owner in turn until one succeeds. Its outcome is the only one; if
none does, all failures are. -/
def runGroup (interpreter : Interpreter σ) (arguments : List Text) (failures : List Outcome) :
    List (OperationMatch σ) → Run σ → List Outcome × Run σ
  | [], run => (failures, run)
  | target :: rest, run =>
      match interpreter.runOperation target arguments run with
      | (.ok text, run) => ([⟨target.operation.name, .ok text⟩], run)
      | (.error error, run) =>
          interpreter.runGroup arguments (failures ++ [⟨target.operation.name, .error error⟩]) rest run

/-- Whether two matches next to each other belong to one owner. -/
def sameOwner (left right : OperationMatch σ) : Bool :=
  left.owner.identity == right.owner.identity

/-- Run groups of operations in order. -/
def runGroups (interpreter : Interpreter σ) (arguments : List Text) :
    List (List (OperationMatch σ)) → Run σ → List Outcome × Run σ
  | [], run => ([], run)
  | group :: rest, run =>
      let (outcomes, run) := interpreter.runGroup arguments [] group run
      let (later, run) := interpreter.runGroups arguments rest run
      (outcomes ++ later, run)

/-- Read properties in order, or write them if there is an argument. -/
def runProperties (interpreter : Interpreter σ) (argument? : Option Text) :
    List (PropertyMatch σ) → Run σ → List Outcome × Run σ
  | [], run => ([], run)
  | target :: rest, run =>
      let (result, run) :=
        match argument? with
        | none => (showProperty target.property run.state, run)
        | some raw => interpreter.setProperty target raw run
      let (later, run) := interpreter.runProperties argument? rest run
      (⟨target.property.name, result⟩ :: later, run)

end Interpreter

namespace Resolution

/-- What the first tripped guard says: those of the operations come first, those of the properties
count only for writing. -/
def tripped? (resolution : Resolution σ) (state : σ) : Option Text :=
  (resolution.operations.findSome? fun target =>
    Guard.check (target.owner.read state) target.operation.name target.operation.guards).or
    (if resolution.arguments.length == 1 then
      resolution.properties.findSome? fun target =>
        Guard.check (target.owner.read state) target.property.name target.property.guards
    else none)

/-- The matched operations in groups of neighbours with one owner. -/
def groups (resolution : Resolution σ) : List (List (OperationMatch σ)) :=
  resolution.operations.splitBy Interpreter.sameOwner

end Resolution

namespace Interpreter

/-- Carry out a resolution. A tripped guard cancels all of it before anything runs. -/
def perform (interpreter : Interpreter σ) (resolution : Resolution σ) (run : Run σ) :
    List Outcome × Run σ :=
  match resolution.tripped? run.state with
  | some message => ([⟨resolution.command, .error (.cancelled message)⟩], run)
  | none =>
      let (outcomes, run) := interpreter.runGroups resolution.arguments resolution.groups run
      let (later, run) :=
        interpreter.runProperties resolution.arguments.head? resolution.properties run
      (outcomes ++ later, run)

end Interpreter

end CommandLink
