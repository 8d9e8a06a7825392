import CommandLink.Settings.Tree

/-!
# Settings stores

Where settings are kept. A store is a set of operations on a state `τ`, so that one which may fail,
or which writes a file, is used in the same way as one in memory.
-/

namespace CommandLink

/-- The operations of a settings store. -/
structure SettingsStore (τ : Type) where
  /-- The direct children of a path. -/
  loadAll : Text → τ → Except SettingsError (List SettingEntry)
  /-- Create or overwrite the value at a path. -/
  update : Text → Text → τ → Except SettingsError Unit × τ
  /-- Remove a path and all below it. It need not be there. -/
  remove : Text → τ → Except SettingsError Unit × τ

namespace SettingsStore

/-- Settings in memory. -/
def memory : SettingsStore SettingsTree where
  loadAll path tree := .ok (tree.children path)
  update path value tree :=
    match SettingsPath.validate path with
    | .error error => (.error error, tree)
    | .ok path => (.ok (), tree.insert path value)
  remove path tree :=
    match SettingsPath.validate path with
    | .error error => (.error error, tree)
    | .ok path => (.ok (), tree.removeSubtree path)

end SettingsStore

/-- Which calls of a store are refused. -/
structure Refusals where
  load : Bool := false
  update : Bool := false
  remove : Bool := false
deriving DecidableEq, Repr

namespace SettingsStore

/-- A store that refuses calls as the state says, and passes the others on. -/
def refusing {τ : Type} (store : SettingsStore τ) : SettingsStore (Refusals × τ) where
  loadAll path state :=
    if state.1.load then .error (.invalidPath path) else store.loadAll path state.2
  update path value state :=
    if state.1.update then (.error (.invalidPath path), state)
    else
      let (result, inner) := store.update path value state.2
      (result, state.1, inner)
  remove path state :=
    if state.1.remove then (.error (.invalidPath path), state)
    else
      let (result, inner) := store.remove path state.2
      (result, state.1, inner)

end SettingsStore

end CommandLink
