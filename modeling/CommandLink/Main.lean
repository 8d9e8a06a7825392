import CommandLink.Configuration.Reader
import CommandLink.Demo.Studio
import CommandLink.Options

/-!
# The command line

Serves a studio over standard input and output.

    --config FILE      read the configuration from a file
    --bind ADDRESS     another address in place of the configured one
    --settings FILE    keep the aliases in this file
    --suggest          answer unknown commands with similar names
-/

namespace CommandLink

/-- The octets of a file, if it can be read. -/
def readOctets? (path : Text) : IO (Option (List UInt8)) := do
  try
    return some (← IO.FS.readBinFile (String.ofList path)).toList
  catch _ => return none

/-- The configuration that the options ask for. -/
def configure (options : Options) : IO (Except ConfigurationError Configuration) := do
  match options.config? with
  | none => return .ok (options.apply {})
  | some path => return (Configuration.load (← readOctets? path)).map options.apply

/-- The settings that a configuration asks for. -/
def openSettings (configuration : Configuration) : IO (Except SettingsError FileSettings) := do
  match configuration.settingsPath? with
  | none => return FileSettings.ofDisk {}
  | some path => return FileSettings.ofDisk { folder := .present (← readOctets? path) none }

/-- Send messages. -/
def send (messages : List Text) : IO Unit := do
  let output ← IO.getStdout
  for message in messages do
    output.putStr (String.ofList (wire message))
  output.flush

/-- Write the settings file if it has changed. -/
def keep (configuration : Configuration) (before after : Studio) : IO Unit := do
  let octets? := after.aliases.settings.disk.file?
  match configuration.settingsPath?, octets? with
  | some path, some octets =>
      if before.aliases.settings.disk.file? != octets? then
        IO.FS.writeBinFile (String.ofList path) ⟨octets.toArray⟩
  | _, _ => return

/-- Serve standard input to its end. -/
partial def converse (configuration : Configuration) (server : Server Studio) (framer : Framer)
    (conversation : Conversation Studio) : IO Unit := do
  let octets := (← (← IO.getStdin).read readSize.toUSize).toList
  let next :=
    if octets.isEmpty then conversation.close server framer
    else conversation.react server framer (.octets octets)
  let (sent, next) := next.takeSent
  send sent
  keep configuration conversation.run.state next.run.state
  unless octets.isEmpty do converse configuration server framer next

/-- Report that there is nothing to serve. -/
def refuse (reason : String) : IO UInt32 := do
  IO.eprintln reason
  return 1

/-- Serve a studio with a configuration. -/
def serveStudio (configuration : Configuration) (framer : Framer) : IO UInt32 := do
  match ← openSettings configuration with
  | .error error => refuse (String.ofList error.message)
  | .ok settings =>
      match Studio.restore configuration.interpreter settings with
      | .error error => refuse (String.ofList error.message)
      | .ok studio =>
          converse configuration (Studio.server configuration.interpreter) framer
            { run := { state := studio } }
          return 0

end CommandLink

open CommandLink in
/-- The command line. -/
def main (arguments : List String) : IO UInt32 := do
  match Options.read? {} (arguments.map String.toList) with
  | none => refuse "unknown, repeated or incomplete option"
  | some options =>
      match ← configure options with
      | .error .io => refuse "cannot read the configuration file"
      | .error .parse => refuse "invalid configuration file"
      | .error .pattern => refuse "invalid framer pattern"
      | .ok configuration =>
          match configuration.framer.framer? with
          | none => refuse "invalid framer pattern"
          | some framer => serveStudio configuration framer
