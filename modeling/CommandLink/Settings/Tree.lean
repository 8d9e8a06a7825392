import CommandLink.Settings.Path
import CommandLink.Value.Basic

/-!
# Settings trees

The settings themselves: values under paths, in the order of the paths. A path that others go on
from can be listed like a setting, whether or not it has a value of its own.
-/

namespace CommandLink

/-- Values under their paths, in ascending order of the paths. -/
abbrev SettingsTree := List (Text × Text)

/-- A direct child of a listed path. -/
structure SettingEntry where
  /-- The last segment. -/
  name : Text
  /-- The value, empty for a child that has only children. -/
  value : Text
  /-- The whole path. -/
  path : Text
deriving DecidableEq, Repr

namespace SettingsTree

/-- The value at a path. -/
def get? (tree : SettingsTree) (path : Text) : Option Text :=
  tree.lookup path

/-- Set the value at a path. -/
def insert (tree : SettingsTree) (path value : Text) : SettingsTree :=
  Value.insertField path value tree

/-- What stands before the children of a path. -/
def below (path : Text) : Text :=
  if path.isEmpty then [] else path ++ ['/']

/-- Remove a path and all below it. -/
def removeSubtree (tree : SettingsTree) (path : Text) : SettingsTree :=
  tree.filter fun entry => entry.1 != path && !(path ++ ['/']).isPrefixOf entry.1

/-- Add what a path below a listed one says about its direct children: a value for a child that it
names, or no more than that there is a child. -/
def addChild (children : List (Text × Option Text)) (rest value : Text) :
    List (Text × Option Text) :=
  match Text.cut '/' rest with
  | (name, none) => Value.insertField name (some value) children
  | (name, some _) =>
      if children.any (·.1 == name) then children else Value.insertField name none children

/-- The direct children of a path, in the order of their names. -/
def children (tree : SettingsTree) (path : Text) : List SettingEntry :=
  let start := below (SettingsPath.inner path)
  let found := tree.foldl (fun found (key, value) =>
    match Text.dropPrefix? start key with
    | some rest => addChild found rest value
    | none => found) []
  found.map fun (name, value?) => ⟨name, value?.getD [], start ++ name⟩

end SettingsTree

end CommandLink
