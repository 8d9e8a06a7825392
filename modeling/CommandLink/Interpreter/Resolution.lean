import CommandLink.Component.Walk
import CommandLink.Line.Basic

/-!
# Resolution

What a line means in a registry of components. A line may be read in several ways; the first that
matches any operation or property is taken. Nothing here looks at the state of the device.
-/

namespace CommandLink

/-- A command that every registry knows. It is reported in this spelling. -/
inductive Builtin where
  | help
  | questionMark
  | getCommands
  | state
  | getState
  | getJsonState
deriving DecidableEq, Repr

namespace Builtin

/-- How a built-in command is written. -/
def name : Builtin → Text
  | .help => "Help"
  | .questionMark => "?"
  | .getCommands => "GetCommands"
  | .state => "State"
  | .getState => "GetState"
  | .getJsonState => "GetJSONState"

/-- All built-in commands. -/
def all : List Builtin := [.help, .questionMark, .getCommands, .state, .getState, .getJsonState]

/-- The built-in command of a name, in any letter case. -/
def named? (text : Text) : Option Builtin :=
  all.find? fun builtin => Text.sameName builtin.name text

/-- The built-in command that a line asks for: it stands alone, without an argument section. -/
def ofLine? (line : Line) : Option Builtin :=
  match line.segments, line.arguments? with
  | [name], none => named? name
  | _, _ => none

end Builtin

variable {σ : Type}

/-- One way to read a line: which components to search, for which name, with which arguments. -/
structure Target (σ : Type) where
  owners : List (Component σ)
  command : Text
  arguments : List Text

/-- The components that a chain of names leads to. It starts at the name of a registered component,
or, if that leads nowhere, at a child of any registered one. -/
def qualifiedOwners (components : List (Component σ)) (chain : List Text) : List (Component σ) :=
  let named :=
    (components.filter fun component => Text.sameName component.name (chain.headD [])).filterMap
      (·.descend chain.tail)
  if named.isEmpty then components.filterMap (·.descend chain) else named

namespace Target

/-- The reading in which the last segment is the command and the others lead to its owners. -/
def qualified (components : List (Component σ)) (line : Line) : List (Target σ) :=
  let owners := qualifiedOwners components line.qualifiers
  if owners.isEmpty then [] else [⟨owners, line.name, line.arguments⟩]

/-- The readings in which dotted segments are arguments: those after a component's name and a
command, or those after a command. -/
def dotted (components : List (Component σ)) : List Text → List (Target σ)
  | [] => []
  | first :: rest =>
      let owners := components.filter fun component => Text.sameName component.name first
      let owned : List (Target σ) :=
        match rest with
        | command :: argument :: arguments =>
            if owners.isEmpty then [] else [⟨owners, command, argument :: arguments⟩]
        | _ => []
      owned ++ [⟨components, first, rest⟩]

/-- All readings of a line, the most specific first. -/
def ofLine (components : List (Component σ)) (line : Line) : List (Target σ) :=
  match line.qualifiers with
  | [] => [⟨components, line.name, line.arguments⟩]
  | _ :: _ =>
      qualified components line ++
        if line.arguments?.isNone then dotted components line.segments else []

end Target

/-- An operation that a line matches, its owner, and its place among the owner's operations. -/
structure OperationMatch (σ : Type) where
  owner : Component σ
  place : Nat
  operation : Operation σ

/-- A property that a line matches, its owner, and its place among the owner's properties. -/
structure PropertyMatch (σ : Type) where
  owner : Component σ
  place : Nat
  property : Property σ

/-- What a line means: the operations to invoke and the properties to read or write. -/
structure Resolution (σ : Type) where
  command : Text
  arguments : List Text
  operations : List (OperationMatch σ)
  properties : List (PropertyMatch σ)

namespace Target

/-- The operations of a component that a target matches, by name and number of arguments. -/
def operationsOf (target : Target σ) (owner : Component σ) : List (OperationMatch σ) :=
  (owner.operations.zipIdx.filter fun (operation, _) =>
    operation.answers target.command &&
      operation.parameters.length == target.arguments.length).map
    fun (operation, place) => ⟨owner, place, operation⟩

/-- The properties of a component that a target matches: to be read without an argument, to be
written with one. -/
def propertiesOf (target : Target σ) (owner : Component σ) : List (PropertyMatch σ) :=
  if 1 < target.arguments.length then []
  else
    (owner.properties.zipIdx.filter fun (property, _) =>
      property.answers target.command &&
        (target.arguments.isEmpty || property.remotelySettable)).map
      fun (property, place) => ⟨owner, place, property⟩

/-- The operations that a target matches. If any of them is overriding, only those that are. -/
def operations (target : Target σ) : List (OperationMatch σ) :=
  let matched := target.owners.flatMap target.operationsOf
  if matched.any (·.operation.overriding) then matched.filter (·.operation.overriding) else matched

/-- The properties that a target matches. -/
def properties (target : Target σ) : List (PropertyMatch σ) :=
  target.owners.flatMap target.propertiesOf

/-- What a target means, if it matches anything. -/
def resolve? (target : Target σ) : Option (Resolution σ) :=
  if target.operations.isEmpty && target.properties.isEmpty then none
  else some ⟨target.command, target.arguments, target.operations, target.properties⟩

end Target

/-- What a line means in a registry, if it matches anything. -/
def Resolution.ofLine? (components : List (Component σ)) (line : Line) : Option (Resolution σ) :=
  if line.segments.isEmpty then none
  else (Target.ofLine components line).findSome? (·.resolve?)

/-- Whether a text names a built-in command or an operation. Operations of nested components need
their path. -/
def hasOperation (components : List (Component σ)) (text : Text) : Bool :=
  (Builtin.named? text).isSome ||
    let line := Line.parse text
    let owners :=
      match line.qualifiers with
      | [] => components
      | chain => qualifiedOwners components chain
    owners.any fun owner => owner.operations.any (·.answers line.name)

end CommandLink
