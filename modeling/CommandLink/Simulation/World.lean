import CommandLink.Alias.Manager
import CommandLink.Component.Cell
import CommandLink.Demo.AliasCommands
import CommandLink.Demo.Camera

/-!
# The simulated world

The state that simulated devices act on: named cells, shared lists, a camera, and the desk where
aliases are administered.
-/

namespace CommandLink.Simulation

/-- The settings of a simulation: kept in memory, and refused at will. -/
abbrev SimulatedSettings := Refusals × SettingsTree

/-- The store of a simulation's settings. -/
def store : SettingsStore SimulatedSettings :=
  SettingsStore.memory.refusing

/-- The state of simulated devices. -/
structure World where
  /-- The cells that hold a value, by name. -/
  cells : List (Text × Value) := []
  /-- The shared lists, by number. -/
  lists : List (Nat × List Value) := []
  camera : Camera := {}
  aliases : AliasDesk SimulatedSettings := { settings := ({}, []) }
  /-- Whether the alias commands still belong to the desk. -/
  aliasCommands : Bool := true

namespace World

/-- What a cell holds, null if nothing was stored in it. -/
def get (world : World) (name : Text) : Value :=
  (world.cells.lookup name).getD .null

/-- Store a value in a cell. -/
def set (name : Text) (value : Value) (world : World) : World :=
  { world with cells := Value.insertField name value world.cells }

/-- The shared list of a number. -/
def listCell (number : Nat) : Cell World (List Value) where
  read world := (world.lists.lookup number).getD []
  write items world := { world with lists := (number, items) :: world.lists }
  read_write items world := by simp

/-- The camera. -/
def cameraCell : Cell World Camera where
  read := camera
  write camera world := { world with camera }
  read_write _ _ := rfl

/-- The desk where aliases are administered. -/
def office : AliasOffice World SimulatedSettings where
  desk := {
    read := aliases
    write := fun aliases world => { world with aliases }
    read_write := fun _ _ => rfl }
  store := store
  isOpen := aliasCommands

/-- Put a new desk with an empty table in the place of the old one, over the same settings. -/
def replaceDesk (world : World) : World :=
  { world with aliases := { settings := world.aliases.settings }, aliasCommands := false }

end World

end CommandLink.Simulation
