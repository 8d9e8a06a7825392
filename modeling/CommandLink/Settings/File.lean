import CommandLink.Settings.Store
import CommandLink.Text.Utf8
import CommandLink.Value.Printer
import CommandLink.Value.Reader

/-!
# Settings files

A store that keeps its settings in a JSON file as well. Every change writes the file anew: the new
content goes to a temporary file, which then takes the place of the old one. The settings in memory
change first, and stay changed when the file cannot be written.
-/

namespace CommandLink

/-- What stands at the place of the folder that holds the settings file. -/
inductive Folder where
  /-- Nothing. -/
  | absent
  /-- A plain file, so that no folder can be made. -/
  | obstructed
  /-- A folder, with the octets of the settings file and of the temporary file, if they exist. -/
  | present (file? temporary? : Option (List UInt8))
deriving DecidableEq, Repr

/-- Where the writing of a file may fail. -/
inductive SaveFault where
  /-- The folder cannot be made. -/
  | makeFolder
  /-- The temporary file cannot be written; it is left with these octets, if any. -/
  | writeTemporary (left? : Option (List UInt8))
  /-- The temporary file cannot take the place of the settings file. -/
  | rename
deriving DecidableEq, Repr

/-- The folder, and how the next attempts to save end: `none` where nothing fails. Beyond the end of
the list nothing fails either. -/
structure Disk where
  folder : Folder := .absent
  faults : List (Option SaveFault) := []
deriving DecidableEq, Repr

namespace Disk

/-- The octets of the settings file, if there is one. -/
def file? (disk : Disk) : Option (List UInt8) :=
  match disk.folder with
  | .present file? _ => file?
  | _ => none

/-- The octets of the temporary file, if there is one. -/
def temporary? (disk : Disk) : Option (List UInt8) :=
  match disk.folder with
  | .present _ temporary? => temporary?
  | _ => none

/-- Write the settings file by way of the temporary one. -/
def save (disk : Disk) (octets : List UInt8) : Except SettingsError Unit × Disk :=
  let faults := disk.faults.tail
  match disk.folder with
  | .obstructed => (.error .io, { disk with faults })
  | .absent | .present _ _ =>
      match disk.faults.head?.join with
      | some .makeFolder => (.error .io, { disk with faults })
      | some (.writeTemporary left?) => (.error .io, ⟨.present disk.file? left?, faults⟩)
      | some .rename => (.error .io, ⟨.present disk.file? (some octets), faults⟩)
      | none => (.ok (), ⟨.present (some octets) none, faults⟩)

/-- Another program writes the settings file, and makes the folder if there is none. -/
def overwrite (octets : List UInt8) (disk : Disk) : Except SettingsError Unit × Disk :=
  match disk.folder with
  | .obstructed => (.error .io, disk)
  | .absent | .present _ _ =>
      (.ok (), { disk with folder := .present (some octets) disk.temporary? })

/-- The folder and all that is in it give way to a plain file. -/
def obstruct (disk : Disk) : Disk :=
  { disk with folder := .obstructed }

/-- A plain file at the place of the folder is removed. -/
def clear (disk : Disk) : Disk :=
  match disk.folder with
  | .obstructed => { disk with folder := .absent }
  | .absent | .present _ _ => disk

end Disk

/-- The settings of an open file, and the disk that the file is on. -/
structure FileSettings where
  tree : SettingsTree
  disk : Disk
deriving DecidableEq, Repr

namespace FileSettings

/-- An entry of the settings: the value of its field must be a string. -/
def setting? : List Piece × Document → Option (Text × Text)
  | (name, .string value) => do
      let name ← Piece.text? name
      let value ← Piece.text? value
      return (name, value)
  | _ => none

/-- The settings that the text of a file holds: an object of strings. -/
def decode (text : Text) : Except SettingsError SettingsTree :=
  match Document.read? text with
  | some (.object fields) =>
      match fields.mapM setting? with
      | some entries => .ok (Value.orderFields entries)
      | none => .error .malformed
  | _ => .error .malformed

/-- The octets of a file that holds the settings. -/
def encode (tree : SettingsTree) : List UInt8 :=
  Utf8.encode (Value.prettyMap tree)

/-- The settings on a disk. There are none while there is no file. -/
def load (disk : Disk) : Except SettingsError SettingsTree :=
  match disk.folder with
  | .obstructed => .error .io
  | .absent | .present none _ => .ok []
  | .present (some octets) _ =>
      match Utf8.decode? octets with
      | none => .error .io
      | some text => decode text

/-- Open the file on a disk. -/
def ofDisk (disk : Disk) : Except SettingsError FileSettings :=
  (load disk).map fun tree => ⟨tree, disk⟩

/-- Write the settings to the file. -/
def save (settings : FileSettings) : Except SettingsError Unit × FileSettings :=
  let (result, disk) := settings.disk.save (encode settings.tree)
  (result, { settings with disk })

/-- Set a value. The file is written only if the value was another. -/
def update (path value : Text) (settings : FileSettings) : Except SettingsError Unit × FileSettings :=
  match SettingsPath.validate path with
  | .error error => (.error error, settings)
  | .ok path =>
      if settings.tree.get? path = some value then (.ok (), settings)
      else save { settings with tree := settings.tree.insert path value }

/-- Remove a path and all below it. The file is written only if anything was there. -/
def remove (path : Text) (settings : FileSettings) : Except SettingsError Unit × FileSettings :=
  match SettingsPath.validate path with
  | .error error => (.error error, settings)
  | .ok path =>
      let tree := settings.tree.removeSubtree path
      if tree.length = settings.tree.length then (.ok (), settings)
      else save { settings with tree }

/-- Settings in a file, as a store. -/
def store : SettingsStore FileSettings where
  loadAll path settings := .ok (settings.tree.children path)
  update := update
  remove := remove

end FileSettings

end CommandLink
