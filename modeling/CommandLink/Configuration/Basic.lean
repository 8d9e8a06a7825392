import CommandLink.Framing.Config
import CommandLink.Interpreter.Basic
import CommandLink.Value.Printer

/-!
# Configurations

What can be set about a command server, and how a configuration is written.
-/

namespace CommandLink

/-- Where a server listens. -/
structure ServerOptions where
  bind : Text := "0.0.0.0:5000"
deriving DecidableEq, Repr

/-- The configuration of a command server. -/
structure Configuration where
  framer : FramerConfig := {}
  interpreter : InterpreterOptions := {}
  server : ServerOptions := {}
  /-- The file that keeps the aliases. Without one they are kept in memory. -/
  settingsPath? : Option Text := none
deriving DecidableEq

namespace Configuration

/-- An object with fields in the given order, each with the text of its value. -/
def writeRecord (fields : List (Text × Text)) : Text :=
  '{' :: (Text.join [','] (fields.map fun (name, text) => Value.quote name ++ ':' :: text) ++ ['}'])

/-- An optional value, null if there is none. -/
def writeOption {α : Type} (write : α → Text) : Option α → Text
  | some value => write value
  | none => "null"

/-- A framer configuration as JSON text. -/
def writeFramer (config : FramerConfig) : Text :=
  writeRecord [
    ("terminator", Value.quote config.terminator),
    ("pattern", writeOption Value.quote config.pattern?),
    ("master_timeout_ms", Text.ofNat config.masterTimeout),
    ("data_timeout_ms", Text.ofNat config.dataTimeout)]

/-- Interpreter options as JSON text. -/
def writeInterpreter (options : InterpreterOptions) : Text :=
  writeRecord [
    ("suggestions", Value.boolText options.suggestions),
    ("suggestion_threshold", Value.numberText (.float options.suggestionThreshold)),
    ("suggestion_window", Value.numberText (.float options.suggestionWindow)),
    ("invoke_timeout_ms", writeOption Text.ofNat options.invokeTimeout?)]

/-- A configuration as JSON text. -/
def write (configuration : Configuration) : Text :=
  writeRecord [
    ("framer", writeFramer configuration.framer),
    ("interpreter", writeInterpreter configuration.interpreter),
    ("server", writeRecord [("bind", Value.quote configuration.server.bind)]),
    ("settings_path", writeOption Value.quote configuration.settingsPath?)]

end Configuration

end CommandLink
