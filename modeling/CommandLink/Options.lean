import CommandLink.Configuration.Basic

/-!
# Options

The options of the command line. They go before what the configuration file says.
-/

namespace CommandLink

/-- The options of the command line. -/
structure Options where
  /-- The configuration file. -/
  config? : Option Text := none
  /-- Where the server listens. -/
  bind? : Option Text := none
  /-- The file that keeps the aliases. -/
  settings? : Option Text := none
  /-- Answer unknown commands with similar names. -/
  suggest : Bool := false
deriving DecidableEq, Repr

namespace Options

/-- Give the option of a name a value. No option is given twice. -/
def set? (options : Options) (name value : Text) : Option Options :=
  match options with
  | ⟨config?, bind?, settings?, _⟩ =>
      if name = "--config" && config?.isNone then some { options with config? := some value }
      else if name = "--bind" && bind?.isNone then some { options with bind? := some value }
      else if name = "--settings" && settings?.isNone then
        some { options with settings? := some value }
      else none

/-- Read the arguments of the command line after those that were read into `options`. A value
follows its option, or an equals sign after it. -/
def read? (options : Options) : List Text → Option Options
  | [] => some options
  | argument :: rest =>
      if argument = "--suggest" then
        if options.suggest then none else read? { options with suggest := true } rest
      else
        match Text.cut '=' argument, rest with
        | (name, some value), rest => (options.set? name value).bind (read? · rest)
        | (name, none), value :: rest => (options.set? name value).bind (read? · rest)
        | (_, none), [] => none

/-- The configuration with what the options say instead. -/
def apply (options : Options) (configuration : Configuration) : Configuration :=
  { configuration with
    interpreter := { configuration.interpreter with
      suggestions := configuration.interpreter.suggestions || options.suggest }
    server := ⟨options.bind?.getD configuration.server.bind⟩
    settingsPath? := options.settings?.or configuration.settingsPath? }

end Options

end CommandLink
