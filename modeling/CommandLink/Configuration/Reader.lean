import CommandLink.Configuration.Basic
import CommandLink.Text.Utf8
import CommandLink.Value.Reader

/-!
# Reading configurations

A configuration file is a JSON document. A record in it is an object, whose fields may come in any
order and among unknown ones, or an array of the fields in their order. What is missing keeps its
standard value.
-/

namespace CommandLink

/-- Why there is no configuration. -/
inductive ConfigurationError where
  /-- The file is missing or is no text. -/
  | io
  /-- The text is no configuration. -/
  | parse
  /-- The pattern of the framer is ill-formed. -/
  | pattern
deriving DecidableEq, Repr

namespace Configuration

/-- The documents of a record's fields, in the order of `names`. No field may be there twice, and an
array may not have more items than there are fields. -/
def fields? (names : List Text) : Document → Option (List (Option Document))
  | .array items =>
      if items.length ≤ names.length then
        some (items.map some ++ List.replicate (names.length - items.length) none)
      else none
  | .object fields => do
      let named ← fields.mapM fun (name, document) => (Piece.text? name).map (·, document)
      names.mapM fun name =>
        match named.filter (·.1 == name) with
        | [] => some none
        | [(_, document)] => some (some document)
        | _ => none
  | _ => none

/-- The value of a field, the standard one if the field is missing. -/
def field? {α : Type} (standard : α) (read : Document → Option α) : Option Document → Option α
  | some document => read document
  | none => some standard

/-- A value, or null for none. -/
def readOption? {α : Type} (read : Document → Option α) : Document → Option (Option α)
  | .null => some none
  | document => (read document).map some

/-- A string. -/
def readText? : Document → Option Text
  | .string pieces => Piece.text? pieces
  | _ => none

/-- A truth value. -/
def readBool? : Document → Option Bool
  | .bool b => some b
  | _ => none

/-- A number of milliseconds: a whole number of at most 64 bits, written without point or
exponent. -/
def readNat? : Document → Option Nat
  | .number numeral =>
      match numeral.number? with
      | some (.integer (.ofNat n)) => some n
      | _ => none
  | _ => none

/-- A number. -/
def readDouble? : Document → Option Double
  | .number numeral => numeral.number?.map (·.toDouble)
  | _ => none

/-- A framer configuration. -/
def readFramer? (document : Document) : Option FramerConfig := do
  let standard : FramerConfig := {}
  match ← fields? ["terminator", "pattern", "master_timeout_ms", "data_timeout_ms"] document with
  | [terminator, pattern, masterTimeout, dataTimeout] =>
      return ⟨← field? standard.terminator readText? terminator,
        ← field? standard.pattern? (readOption? readText?) pattern,
        ← field? standard.masterTimeout readNat? masterTimeout,
        ← field? standard.dataTimeout readNat? dataTimeout⟩
  | _ => none

/-- Interpreter options. -/
def readInterpreter? (document : Document) : Option InterpreterOptions := do
  let standard : InterpreterOptions := {}
  match ← fields? ["suggestions", "suggestion_threshold", "suggestion_window", "invoke_timeout_ms"]
      document with
  | [suggestions, threshold, window, invokeTimeout] =>
      return ⟨← field? standard.suggestions readBool? suggestions,
        ← field? standard.suggestionThreshold readDouble? threshold,
        ← field? standard.suggestionWindow readDouble? window,
        ← field? standard.invokeTimeout? (readOption? readNat?) invokeTimeout⟩
  | _ => none

/-- Server options. -/
def readServer? (document : Document) : Option ServerOptions := do
  let standard : ServerOptions := {}
  match ← fields? ["bind"] document with
  | [bind] => return ⟨← field? standard.bind readText? bind⟩
  | _ => none

/-- A configuration. -/
def ofDocument? (document : Document) : Option Configuration := do
  let standard : Configuration := {}
  match ← fields? ["framer", "interpreter", "server", "settings_path"] document with
  | [framer, interpreter, server, settingsPath] =>
      return ⟨← field? standard.framer readFramer? framer,
        ← field? standard.interpreter readInterpreter? interpreter,
        ← field? standard.server readServer? server,
        ← field? standard.settingsPath? (readOption? readText?) settingsPath⟩
  | _ => none

/-- Read a configuration from the octets of its file. -/
def load (file? : Option (List UInt8)) : Except ConfigurationError Configuration :=
  match file?.bind Utf8.decode? with
  | none => .error .io
  | some text =>
      match (Document.read? text).bind ofDocument? with
      | none => .error .parse
      | some configuration =>
          match configuration.framer.framer? with
          | none => .error .pattern
          | some _ => .ok configuration

end Configuration

end CommandLink
