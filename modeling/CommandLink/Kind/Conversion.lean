import CommandLink.Kind.Basic
import CommandLink.Number.Decimal
import CommandLink.Value.Reader

/-!
# Conversion

From argument text to a value of the declared kind. The first of these stages that applies decides:
the converter of the operation or property itself, the text read as JSON if its value fits the kind,
the converter registered under the parameter's name, and the plain reading of the text.
-/

namespace CommandLink

/-- A text that is no value of the expected kind. -/
structure ConversionError where
  value : Text
  expected : Text
  hint? : Option Text
deriving DecidableEq, Repr

namespace ConversionError

/-- A text that is not of a kind. -/
def ofKind (raw : Text) (kind : Kind) : ConversionError :=
  ⟨raw, kind.display, kind.hint?⟩

/-- A text that is not what a converter says it expects. -/
def custom (raw expected : Text) : ConversionError :=
  ⟨raw, expected, none⟩

/-- What the operator is told. -/
def message (error : ConversionError) : Text :=
  "Conversion error: '" ++ error.value ++ "' is not a valid " ++ error.expected ++
    match error.hint? with
    | some hint => " (expected format: " ++ hint ++ ")"
    | none => ""

end ConversionError

/-- A converter of its own way from text to a value. -/
abbrev Converter := Text → Kind → Except ConversionError Value

namespace Kind

/-- The declared spelling of a variant that is named in any letter case. -/
def variant? (variants : List Text) (text : Text) : Option Value :=
  (variants.find? (Text.sameName · text)).map .string

/-- The texts for true, in small letters. -/
def trueTexts : List Text := ["true", "1", "yes", "on"]

/-- The texts for false, in small letters. -/
def falseTexts : List Text := ["false", "0", "no", "off"]

/-- The truth value that a text names in any letter case. -/
def readBool? (text : Text) : Option Bool :=
  if trueTexts.contains (Text.foldCase text) then some true
  else if falseTexts.contains (Text.foldCase text) then some false
  else none

/-- The integer that a number is. A double must have a whole value of less than `2 ^ 63` on either
side of zero. -/
def integer? : Number → Option Int
  | .integer n => if fitsInt64 n then some n else none
  | .float d => d.toInt?.filter fun n => n.natAbs < 0x8000000000000000

/-- Read a text plainly as a value of a kind. `fit` fits values to that kind; it is used for lists,
whose texts are JSON. -/
def readPlain? (fit : Value → Option Value) (raw : Text) : Kind → Option Value
  | .string => some (.string raw)
  | .int => (readInt64? (Text.trim raw)).map .ofInt
  | .float => ((Decimal.read? (Text.trim raw)).bind (·.toDouble?)).map (.number <| .float ·)
  | .bool => (readBool? (Text.trim raw)).map .bool
  | .json => Value.read? (Text.trim raw)
  | .enumeration _ variants =>
      (variant? variants (Text.trim raw)).or
        (((readIndex? (Text.trim raw)).bind (variants[·]?)).map .string)
  | .list _ => (Value.read? (Text.trim raw)).bind fit

/-- Fit a value to a kind: none if it does not fit. A string among the items of a list may also be
the plain text of an item. -/
def fit? : Kind → Value → Option Value
  | .json, value => some value
  | .string, .string text => some (.string text)
  | .bool, .bool b => some (.bool b)
  | .int, .number n => (integer? n).map .ofInt
  | .float, .number n => some (.number (.float n.toDouble))
  | .enumeration _ variants, .string text => variant? variants text
  | .list element, .array items =>
      (items.mapM fun item =>
        (fit? element item).or
          (item.toText?.bind fun text => readPlain? (fit? element) text element)).map .array
  | _, _ => none

/-- Read a text plainly, without converters and without looking for JSON first. -/
def primitive (raw : Text) (kind : Kind) : Except ConversionError Value :=
  match readPlain? (fit? kind) raw kind with
  | some value => .ok value
  | none => .error (.ofKind raw kind)

/-- Convert an argument. `specific` belongs to the operation or property, `named` to the
parameter's name. -/
def convert (specific named : Option Converter) (raw : Text) (kind : Kind) :
    Except ConversionError Value :=
  match specific with
  | some converter => converter raw kind
  | none =>
      match (Value.read? raw).bind (fit? kind) with
      | some value => .ok value
      | none =>
          match named with
          | some converter => converter raw kind
          | none => primitive raw kind

end Kind

end CommandLink
