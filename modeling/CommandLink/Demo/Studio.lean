import CommandLink.Configuration.Basic
import CommandLink.Demo.AliasCommands
import CommandLink.Demo.Camera
import CommandLink.Server.Stream
import CommandLink.Settings.File

/-!
# A studio

A camera and the administration of its aliases, ready to be served.
-/

namespace CommandLink

/-- The state of a studio. -/
structure Studio where
  camera : Camera := {}
  aliases : AliasDesk FileSettings

namespace Studio

/-- The camera of a studio. -/
def cameraCell : Cell Studio Camera where
  read := camera
  write camera studio := { studio with camera }
  read_write _ _ := rfl

/-- The administration of the aliases of a studio. -/
def office : AliasOffice Studio FileSettings where
  desk := {
    read := aliases
    write := fun aliases studio => { studio with aliases }
    read_write := fun _ _ => rfl }
  store := FileSettings.store
  isOpen _ := true

/-- The interpreter of a studio. -/
def interpreter (options : InterpreterOptions) : Interpreter Studio :=
  (({ options } : Interpreter Studio).register (Camera.component 0 cameraCell)).register
    (office.component 1)

/-- The server of a studio. -/
def server (options : InterpreterOptions) : Server Studio where
  interpreter := interpreter options
  aliases? := some (·.aliases.table)

/-- A studio whose aliases are restored from its settings. -/
def restore (options : InterpreterOptions) (settings : FileSettings) :
    Except AliasError Studio :=
  let (result, aliases) :=
    AliasDesk.restore FileSettings.store (interpreter options).directory { settings }
  result.map fun _ => { aliases }

end Studio

end CommandLink
