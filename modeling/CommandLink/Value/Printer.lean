import CommandLink.Value.Basic
import CommandLink.Number.Shortest

/-!
# Writing values

A value as JSON text without blanks, and as the bare text of a reply, where a string stands without
quotes and null as nothing.
-/

namespace CommandLink

namespace Value

/-- Where the positional form of doubles ends in JSON text. -/
def floatStyle : Shortest.Style := ⟨-5, 15⟩

/-- A hexadecimal digit, in small letters. -/
def hexDigit (n : Nat) : Char :=
  Nat.digitChar n

/-- One character inside quotes: the two that would end or escape, and the control characters below
the space, are written as escapes. -/
def escape (c : Char) : Text :=
  if c = '"' then ['\\', '"']
  else if c = '\\' then ['\\', '\\']
  else if c = '\n' then ['\\', 'n']
  else if c = '\r' then ['\\', 'r']
  else if c = '\t' then ['\\', 't']
  else if c = '\x08' then ['\\', 'b']
  else if c = '\x0c' then ['\\', 'f']
  else if c.toNat < 0x20 then
    ['\\', 'u', '0', '0', hexDigit (c.toNat / 16), hexDigit (c.toNat % 16)]
  else [c]

/-- A text in quotes. -/
def quote (text : Text) : Text :=
  '"' :: (text.flatMap escape ++ ['"'])

/-- The text of a truth value. -/
def boolText (b : Bool) : Text :=
  if b then "true" else "false"

/-- The text of a number. A double shows a point or an exponent. -/
def numberText : Number → Text
  | .integer n => Text.ofInt n
  | .float d => Shortest.text floatStyle d

mutual

/-- A value as JSON text. -/
def compact : Value → Text
  | .null => "null"
  | .bool b => boolText b
  | .number n => numberText n
  | .string text => quote text
  | .array items => '[' :: (compactItems items ++ [']'])
  | .object fields => '{' :: (compactFields fields ++ ['}'])

/-- The items of an array, with commas between them. -/
def compactItems : List Value → Text
  | [] => []
  | [item] => compact item
  | item :: rest => compact item ++ ',' :: compactItems rest

/-- The fields of an object, with commas between them. -/
def compactFields : List (Text × Value) → Text
  | [] => []
  | [(name, value)] => quote name ++ ':' :: compact value
  | (name, value) :: rest => quote name ++ ':' :: (compact value ++ ',' :: compactFields rest)

end

/-- A value as a reply shows it: a string bare, null as nothing, all else as JSON text. -/
def render : Value → Text
  | .null => []
  | .string text => text
  | value => compact value

/-- The lines of a map from texts to texts, each indented by two spaces. -/
def prettyLines : List (Text × Text) → Text
  | [] => []
  | [(name, value)] => ("\n  " : Text) ++ quote name ++ ':' :: ' ' :: quote value
  | (name, value) :: rest =>
      ("\n  " : Text) ++ quote name ++ ':' :: ' ' :: (quote value ++ ',' :: prettyLines rest)

/-- A map from texts to texts as a JSON object with a line for each of its entries. -/
def prettyMap (entries : List (Text × Text)) : Text :=
  if entries.isEmpty then ['{', '}'] else '{' :: (prettyLines entries ++ ['\n', '}'])

end Value

end CommandLink
