import CommandLink.Text.Basic

/-!
# Kinds

The declared shapes of parameters and properties.
-/

namespace CommandLink

/-- A kind of value. -/
inductive Kind where
  | string
  | int
  | float
  | bool
  /-- Any value, given as JSON. -/
  | json
  /-- One of a closed set of names. -/
  | enumeration (name : Text) (variants : List Text)
  | list (element : Kind)
deriving DecidableEq, Repr

namespace Kind

/-- The name of a kind, as signatures and messages show it. -/
def display : Kind → Text
  | .string => "String"
  | .int => "Int"
  | .float => "Float"
  | .bool => "Bool"
  | .json => "Json"
  | .enumeration name _ => name
  | .list element => "List<" ++ display element ++ ">"

/-- What a text of this kind looks like, for the reader of an error message. -/
def hint? : Kind → Option Text
  | .string => none
  | .int => some "integer, e.g. 42"
  | .float => some "number, e.g. 1.5"
  | .bool => some "true|false"
  | .json => some "JSON"
  | .enumeration _ variants => some (Text.join ['|'] variants)
  | .list _ => some "JSON array, e.g. [1,2]"

/-- Whether a kind is a list of another. -/
def isList : Kind → Bool
  | .list _ => true
  | _ => false

end Kind

end CommandLink
