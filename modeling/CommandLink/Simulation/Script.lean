import CommandLink.Component.SharedList
import CommandLink.Interpreter.Basic
import CommandLink.Simulation.World

/-!
# Scripts

The code of simulated devices, as data: what handlers, getters, setters, lists, converters and output
conversions do.
-/

namespace CommandLink.Simulation

/-- What the handler of an operation does. -/
inductive HandlerScript where
  | give (value : Value)
  /-- Give an argument, null if there is none. -/
  | argument (place : Nat)
  /-- Give all arguments as an array. -/
  | arguments
  /-- Give the arguments as they are shown, with bars between them. -/
  | joined
  | fail (fault : Fault)
  | store (cell : Text) (value : Value)
  | storeArgument (cell : Text) (place : Nat)
  | load (cell : Text)
  /-- Add one to a cell and give the sum. A cell that holds no integer counts as zero. -/
  | count (cell : Text)

namespace HandlerScript

/-- An argument, null if there is none. -/
def argumentAt (arguments : List Value) (place : Nat) : Value :=
  (arguments[place]?).getD .null

/-- Run a script. -/
def run (script : HandlerScript) (arguments : List Value) (world : World) :
    Except Fault Value × World :=
  match script with
  | .give value => (.ok value, world)
  | .argument place => (.ok (argumentAt arguments place), world)
  | .arguments => (.ok (.array arguments), world)
  | .joined => (.ok (.string (Text.join ['|'] (arguments.map (·.render)))), world)
  | .fail fault => (.error fault, world)
  | .store cell value => (.ok .null, world.set cell value)
  | .storeArgument cell place => (.ok .null, world.set cell (argumentAt arguments place))
  | .load cell => (.ok (world.get cell), world)
  | .count cell =>
      let sum := Value.ofInt ((world.get cell).toInt?.getD 0 + 1)
      (.ok sum, world.set cell sum)

/-- A script as the handler of an operation, which may drop the value. -/
def handler (script : HandlerScript) (drops : Bool) :
    Directory → List Value → World → Except Fault Value × World :=
  fun _ arguments world =>
    let (result, world) := script.run arguments world
    (if drops then result.map fun _ => .null else result, world)

end HandlerScript

/-- How a property is read. -/
inductive GetterScript where
  | cell (name : Text)
  | constant (value : Value)
  | fail (fault : Fault)

/-- Read a property. -/
def GetterScript.run (script : GetterScript) (world : World) : Except Fault Value :=
  match script with
  | .cell name => .ok (world.get name)
  | .constant value => .ok value
  | .fail fault => .error fault

/-- How a property is written. -/
inductive SetterScript where
  | cell (name : Text)
  | ignore
  | fail (fault : Fault)

/-- Write a property. -/
def SetterScript.run (script : SetterScript) (value : Value) (world : World) :
    Except Fault Unit × World :=
  match script with
  | .cell name => (.ok (), world.set name value)
  | .ignore => (.ok (), world)
  | .fail fault => (.error fault, world)

/-- What stands behind a list property. -/
inductive ListScript where
  /-- The shared list of a number. -/
  | shared (type : ElementType) (number : Nat)
  /-- A list that is empty and cannot be written. -/
  | fail (fault : Fault)

/-- The access to a list. -/
def ListScript.access : ListScript → ListAccess World
  | .shared type number => SharedList.access type (World.listCell number)
  | .fail fault => ⟨fun _ => .ok (.array []), fun _ world => (.error fault, world)⟩

/-- What a converter does. -/
inductive ConverterScript where
  /-- The text with its ASCII letters capitalized. -/
  | upper
  /-- The text and the name of the kind. -/
  | showKind
  | primitive
  | refuse
  /-- A table of texts and their values. -/
  | table (entries : List (Text × Value)) (expected : Text)

/-- The converter of a script. -/
def ConverterScript.converter : ConverterScript → Converter
  | .upper => fun raw _ => .ok (.string (raw.map Char.toUpper))
  | .showKind => fun raw kind => .ok (.string (raw ++ '|' :: kind.display))
  | .primitive => Kind.primitive
  | .refuse => fun raw kind => .error (.ofKind raw kind)
  | .table entries expected => fun raw _ =>
      match entries.lookup raw with
      | some value => .ok value
      | none => .error (.custom raw expected)

/-- What an output conversion does. -/
inductive OutputScript where
  /-- Put a text in front of the value as it is shown. -/
  | wrap (front : Text)
  | constant (value : Value)
  /-- A field of an object, null if there is none. -/
  | field (name : Text)
  | fail (fault : Fault)

/-- The output conversion of a script. -/
def OutputScript.output : OutputScript → Output
  | .wrap front => fun value => .ok (.string (front ++ value.render))
  | .constant value => fun _ => .ok value
  | .field name => fun value =>
      match value with
      | .object fields => .ok ((fields.lookup name).getD .null)
      | _ => .ok .null
  | .fail fault => fun _ => .error fault

/-- The cell that counts the list updates which went through the dispatcher. -/
def dispatchedCell : Text := "dispatched"

/-- A dispatcher that counts the updates, and runs them or not. -/
def countingDispatcher (runs : Bool) : Dispatcher World where
  enter world := ((HandlerScript.count dispatchedCell).run [] world).2
  runs

end CommandLink.Simulation
