import CommandLink.Component.Basic
import CommandLink.Component.Cell
import CommandLink.Text.Visible

/-!
# Shared lists

Lists of one element type that are merged in place: what differs is overwritten, surplus elements
go, missing ones are appended. Nothing is written unless every incoming element is of the type.
-/

namespace CommandLink

/-- What the elements of a shared list are. -/
inductive ElementType where
  | int
  | float
  | bool
  | string
  | json
deriving DecidableEq, Repr

namespace ElementType

/-- What an element should have been, as messages say it. -/
def expected : ElementType → Text
  | .int => "i64"
  | .float => "f64"
  | .bool => "a boolean"
  | .string => "a string"
  | .json => "any value"

/-- What an element is instead, as messages say it. -/
def found : Value → Text
  | .null => "null"
  | .bool b => "boolean `" ++ Value.boolText b ++ "`"
  | .number (.integer n) => "integer `" ++ Text.ofInt n ++ "`"
  | .number (.float d) => "floating point `" ++ Value.numberText (.float d) ++ "`"
  | .string text => "string " ++ Visible.quote text
  | .array _ => "sequence"
  | .object _ => "map"

/-- The complaint about an element. An integer beyond the limits has the right type all the same. -/
def mismatch (type : ElementType) (value : Value) : Fault :=
  let what : Text :=
    match type, value with
    | .int, .number (.integer _) => "value"
    | _, _ => "type"
  .error ("invalid " ++ what ++ ": " ++ found value ++ ", expected " ++ type.expected)

/-- The element that a value is. Integers serve as doubles. -/
def element? : ElementType → Value → Option Value
  | .int, .number (.integer n) => if fitsInt64 n then some (.ofInt n) else none
  | .float, .number n => some (.number (.float n.toDouble))
  | .bool, .bool b => some (.bool b)
  | .string, .string text => some (.string text)
  | .json, value => some value
  | _, _ => none

/-- The elements that values are, or the complaint about the first that is none. -/
def elements (type : ElementType) : List Value → Except Fault (List Value)
  | [] => .ok []
  | value :: rest =>
      match type.element? value with
      | none => .error (type.mismatch value)
      | some element => (type.elements rest).map (element :: ·)

end ElementType

namespace SharedList

/-- Make a list the same as the incoming one. An element that is the same already stays. -/
def merge : List Value → List Value → List Value
  | _, [] => []
  | [], incoming => incoming
  | old :: olds, new :: news => (if old.same new then old else new) :: merge olds news

/-- Make the list in a cell the same as the incoming one, if all its elements are of the type. -/
def makeEqual {σ : Type} (type : ElementType) (cell : Cell σ (List Value)) (incoming : List Value)
    (state : σ) : Except Fault Unit × σ :=
  match type.elements incoming with
  | .error fault => (.error fault, state)
  | .ok elements => (.ok (), cell.modify (merge · elements) state)

/-- A list in a cell, for a property to show and change. -/
def access {σ : Type} (type : ElementType) (cell : Cell σ (List Value)) : ListAccess σ where
  snapshot state := .ok (.array (cell.read state))
  makeEqual := makeEqual type cell

end SharedList

end CommandLink
