import CommandLink.Value.Numeral

/-!
# Reading values

The value that a JSON document spells, if it has one: escapes must pair up to characters, numbers
must be in range, and arrays and objects must not be nested too deeply.
-/

namespace CommandLink

/-- The text of a string. Two code units may be needed for one character; a half of such a pair
alone is no text. -/
def Piece.text? : List Piece → Option Text
  | [] => some []
  | .char c :: rest => do
      let text ← text? rest
      return c :: text
  | .unit high :: .unit low :: rest =>
      if 0xD800 ≤ high && high < 0xDC00 then
        if 0xDC00 ≤ low && low < 0xE000 then do
          let text ← text? rest
          return Char.ofNat (0x10000 + (high - 0xD800) * 0x400 + (low - 0xDC00)) :: text
        else none
      else if 0xDC00 ≤ high && high < 0xE000 then none
      else do
        let text ← text? (.unit low :: rest)
        return Char.ofNat high :: text
  | .unit code :: rest =>
      if 0xD800 ≤ code && code < 0xE000 then none
      else do
        let text ← text? rest
        return Char.ofNat code :: text

namespace Document

mutual

/-- The value of a document in which at most `room` arrays and objects are nested. -/
def value? (room : Nat) : Document → Option Value
  | .null => some .null
  | .bool b => some (.bool b)
  | .number numeral => numeral.number?.map .number
  | .string pieces => (Piece.text? pieces).map .string
  | .array items =>
      match room with
      | 0 => none
      | room + 1 => (values? room items).map .array
  | .object fields =>
      match room with
      | 0 => none
      | room + 1 => (fieldValues? room fields).map fun fields => .object (Value.orderFields fields)

/-- The values of the items of an array. -/
def values? (room : Nat) : List Document → Option (List Value)
  | [] => some []
  | item :: rest => do
      let value ← value? room item
      let values ← values? room rest
      return value :: values

/-- The names and values of the fields of an object. -/
def fieldValues? (room : Nat) : List (List Piece × Document) → Option (List (Text × Value))
  | [] => some []
  | (name, item) :: rest => do
      let name ← Piece.text? name
      let value ← value? room item
      let fields ← fieldValues? room rest
      return (name, value) :: fields

end

end Document

namespace Value

/-- How deep arrays and objects may be nested in a text that is read as a value. -/
def deepest : Nat := 127

/-- The value that a JSON text spells. -/
def read? (text : Text) : Option Value :=
  (Document.read? text).bind (·.value? deepest)

end Value

end CommandLink
