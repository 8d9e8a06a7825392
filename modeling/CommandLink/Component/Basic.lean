import CommandLink.Guard.Basic
import CommandLink.Kind.Conversion

/-!
# Components

What a device offers to commands: a tree of components, each with operations that can be invoked and
properties that can be read and perhaps written. All of it acts on the state `σ` of the device, which
stays abstract.
-/

namespace CommandLink

/-- What a piece of device code can end with instead of a result: an error that it reports, or a
panic, whose text may be missing. -/
inductive Fault where
  | error (message : Text)
  | panic (text? : Option Text)
deriving DecidableEq, Repr

/-- What the operator is told of a fault. -/
def Fault.message : Fault → Text
  | .error message => message
  | .panic (some text) => "handler panicked: " ++ text
  | .panic none => "handler panicked"

/-- A parameter of an operation. -/
structure Parameter where
  name : Text
  kind : Kind
deriving DecidableEq, Repr

/-- What an operation hands back. -/
inductive Returns where
  /-- Nothing. -/
  | void
  /-- A value, at once. -/
  | value
  /-- A value, perhaps after a while. -/
  | async
deriving DecidableEq, Repr

/-- Tells which command texts name an operation. Handlers that administer commands need it. -/
abbrev Directory := Text → Bool

/-- An output conversion, applied to a value before it is shown. -/
abbrev Output := Value → Except Fault Value

/-- An operation that commands can invoke. -/
structure Operation (σ : Type) where
  name : Text
  aliases : List Text := []
  parameters : List Parameter := []
  returns : Returns := .value
  /-- Left out of the listing of commands. -/
  hidden : Bool := false
  /-- Suppresses all operations of the same name that are not overriding. -/
  overriding : Bool := false
  /-- Its result belongs to state dumps, if it has no parameters. -/
  remoteState : Bool := false
  converter? : Option Converter := none
  output? : Option Output := none
  /-- Stands before every result, with a colon between. -/
  label? : Option Text := none
  guards : List Guard := []
  /-- How many milliseconds pass before the handler runs. -/
  delay : Nat := 0
  handler : Directory → List Value → σ → Except Fault Value × σ

/-- A list that commands can change as a whole while it stays where it is. -/
structure ListAccess (σ : Type) where
  snapshot : σ → Except Fault Value
  makeEqual : List Value → σ → Except Fault Unit × σ

/-- How a property is read and written. -/
inductive Access (σ : Type) where
  | scalar (get : σ → Except Fault Value) (set? : Option (Value → σ → Except Fault Unit × σ))
  | list (access : ListAccess σ)

/-- A property of a component. -/
structure Property (σ : Type) where
  name : Text
  aliases : List Text := []
  kind : Kind
  /-- Not to be written by commands. -/
  privateSet : Bool := false
  /-- Its value belongs to state dumps. -/
  remoteState : Bool := false
  converter? : Option Converter := none
  output? : Option Output := none
  guards : List Guard := []
  access : Access σ

/-- A component. Two with the same identity are one and the same, wherever they hang. -/
structure Component (σ : Type) where
  identity : Nat
  name : Text
  operations : List (Operation σ) := []
  properties : List (Property σ) := []
  children : List (Component σ) := []

/-- Whether a command is one of these names, in any letter case. -/
def answersTo (name : Text) (aliases : List Text) (command : Text) : Bool :=
  Text.sameName name command || aliases.any (Text.sameName · command)

namespace Operation

variable {σ : Type}

/-- An operation that does something and hands back nothing. -/
def action (name : Text) (run : Directory → List Value → σ → Except Fault Unit × σ) :
    Operation σ where
  name
  returns := .void
  handler directory arguments state :=
    let (result, state) := run directory arguments state
    (result.map fun () => .null, state)

/-- Whether an operation is named by a command. -/
def answers (operation : Operation σ) (command : Text) : Bool :=
  answersTo operation.name operation.aliases command

/-- How an operation is listed: its name, and the kinds and names of its parameters. -/
def signature (operation : Operation σ) : Text :=
  if operation.parameters.isEmpty then operation.name
  else
    operation.name ++ ": " ++
      Text.join ", " (operation.parameters.map fun parameter =>
        parameter.kind.display ++ ' ' :: parameter.name)

end Operation

/-- Whether and how a property can be written. -/
inductive Settability where
  | readOnly
  | settable
  /-- Merged item by item into the list that is there. -/
  | listMerge
deriving DecidableEq, Repr

namespace Property

variable {σ : Type}

/-- Whether a property is named by a command. -/
def answers (property : Property σ) (command : Text) : Bool :=
  answersTo property.name property.aliases command

/-- Whether and how a property can be written. -/
def settability (property : Property σ) : Settability :=
  match property.access with
  | .list _ => .listMerge
  | .scalar _ (some _) => .settable
  | .scalar _ none => .readOnly

/-- Whether commands may write a property. -/
def remotelySettable (property : Property σ) : Bool :=
  match property.settability with
  | .listMerge => true
  | .settable => !property.privateSet
  | .readOnly => false

/-- The value of a property, before any output conversion. -/
def get (property : Property σ) (state : σ) : Except Fault Value :=
  match property.access with
  | .scalar get _ => get state
  | .list access => access.snapshot state

/-- The value of a property as it is shown. -/
def shown (property : Property σ) (state : σ) : Except Fault Value :=
  match property.get state, property.output? with
  | .ok value, some output => output value
  | got, _ => got

end Property

namespace Component

variable {σ : Type}

/-- The first child of a name, in any letter case. -/
def child? (component : Component σ) (name : Text) : Option (Component σ) :=
  component.children.find? fun child => Text.sameName child.name name

/-- The first property that answers to a name. -/
def property? (component : Component σ) (name : Text) : Option (Property σ) :=
  component.properties.find? (·.answers name)

/-- Follow a chain of names through the children. -/
def descend (component : Component σ) : List Text → Option (Component σ)
  | [] => some component
  | name :: chain => (component.child? name).bind (·.descend chain)

/-- The value of the property at a dotted path, if there is one and it can be read. -/
def read (component : Component σ) (state : σ) (path : Text) : Option Value :=
  let segments := (path.splitOn '.').map Text.trim
  match component.descend segments.dropLast with
  | none => none
  | some owner =>
      match owner.property? (segments.getLast?.getD []) with
      | none => none
      | some property => (property.get state).toOption

end Component

end CommandLink
