import CommandLink.Alias.Table
import CommandLink.Component.Basic
import CommandLink.Settings.Store

/-!
# Alias administration

Changes of the alias table, checked against the commands there are and kept in a settings store, from
which the table can be restored.
-/

namespace CommandLink

/-- Why an alias was refused, or could not be stored. -/
inductive AliasError where
  | unknownCommand (command : Text)
  | emptyAlias
  /-- The alias belongs to another command already. -/
  | conflict (text existing : Text)
  | settings (error : SettingsError)
deriving DecidableEq, Repr

/-- What the operator is told. -/
def AliasError.message : AliasError → Text
  | .unknownCommand command =>
      "unknown command '" ++ command ++ "': aliases can only target registered operations"
  | .emptyAlias => "alias must not be empty"
  | .conflict text existing => "'" ++ text ++ "' is already an alias of " ++ existing
  | .settings error => "settings error: " ++ error.message

/-- The alias table and the state of the store that it is kept in. -/
structure AliasDesk (τ : Type) where
  table : AliasTable := []
  settings : τ

namespace AliasDesk

/-- The path under which all aliases are kept. -/
def root : Text := "CustomCommands"

/-- The path segment of a sort of aliases. -/
def segment : AliasKind → Text
  | .input => "Aliases"
  | .reply => "Replies"

/-- Check an alias against the commands there are, and put it into the table. The answer is whether
it is new. -/
def insert (directory : Directory) (kind : AliasKind) (internal text : Text) (table : AliasTable) :
    Except AliasError (Bool × AliasTable) :=
  let text := Text.trim text
  if text.isEmpty then .error .emptyAlias
  else if !directory internal then .error (.unknownCommand internal)
  else
    match if kind = .input then table.rival? internal text else none with
    | some rival => .error (.conflict text rival.internal)
    | none => .ok (!table.has kind internal text, table.add kind internal text)

variable {τ : Type}

/-- Add an alias to the table and to the store. If it cannot be stored, it is not in the table
either. -/
def add (store : SettingsStore τ) (directory : Directory) (kind : AliasKind) (internal raw : Text)
    (desk : AliasDesk τ) : Except AliasError Unit × AliasDesk τ :=
  let text := Text.trim raw
  if text.isEmpty then (.error .emptyAlias, desk)
  else
    match SettingsPath.join [root, internal, segment kind, text] with
    | .error error => (.error (.settings error), desk)
    | .ok path =>
        match insert directory kind internal text desk.table with
        | .error error => (.error error, desk)
        | .ok (false, table) => (.ok (), { desk with table })
        | .ok (true, table) =>
            match store.update path text desk.settings with
            | (.ok (), settings) => (.ok (), ⟨table, settings⟩)
            | (.error error, settings) =>
                (.error (.settings error), ⟨table.forget kind internal text, settings⟩)

/-- Remove an alias from the table and from the store. The answer is whether it was there. -/
def remove (store : SettingsStore τ) (kind : AliasKind) (internal raw : Text)
    (desk : AliasDesk τ) : Except AliasError Bool × AliasDesk τ :=
  let text := Text.trim raw
  let removed := desk.table.has kind internal text
  let desk := { desk with table := desk.table.forget kind internal text }
  if removed then
    match SettingsPath.join [root, internal, segment kind, text] with
    | .error error => (.error (.settings error), desk)
    | .ok path =>
        match store.remove path desk.settings with
        | (.ok (), settings) => (.ok true, { desk with settings })
        | (.error error, settings) => (.error (.settings error), { desk with settings })
  else (.ok false, desk)

/-- Remove all aliases of a command from the table and from the store. The answer is whether there
were any in the table. -/
def clear (store : SettingsStore τ) (internal : Text) (desk : AliasDesk τ) :
    Except AliasError Bool × AliasDesk τ :=
  let removed := desk.table.any (·.internal == internal)
  let desk := { desk with table := desk.table.clear internal }
  match SettingsPath.join [root, internal] with
  | .error error => (.error (.settings error), desk)
  | .ok path =>
      match store.remove path desk.settings with
      | (.ok (), settings) => (.ok removed, { desk with settings })
      | (.error error, settings) => (.error (.settings error), { desk with settings })

/-- The alias that a stored entry holds: its value, or its name if the value is empty. -/
def entryText (entry : SettingEntry) : Text :=
  if entry.value.isEmpty then entry.name else entry.value

/-- Put stored aliases into the table, those that are not refused. The answer counts them. -/
def restoreEntries (directory : Directory) (kind : AliasKind) (internal : Text) :
    List SettingEntry → AliasTable → Nat × AliasTable
  | [], table => (0, table)
  | entry :: rest, table =>
      match insert directory kind internal (entryText entry) table with
      | .error _ => restoreEntries directory kind internal rest table
      | .ok (_, table) =>
          let (count, table) := restoreEntries directory kind internal rest table
          (count + 1, table)

/-- Restore the aliases of one sort of one command. -/
def restoreKind (store : SettingsStore τ) (directory : Directory) (settings : τ)
    (internal : Text) (kind : AliasKind) (table : AliasTable) :
    Except AliasError Nat × AliasTable :=
  match SettingsPath.join [root, internal, segment kind] with
  | .error error => (.error (.settings error), table)
  | .ok path =>
      match store.loadAll path settings with
      | .error error => (.error (.settings error), table)
      | .ok entries =>
          let (count, table) := restoreEntries directory kind internal entries table
          (.ok count, table)

/-- Restore the aliases of commands in order, up to the first that cannot be loaded. -/
def restoreCommands (store : SettingsStore τ) (directory : Directory) (settings : τ) :
    List (Text × AliasKind) → AliasTable → Except AliasError Nat × AliasTable
  | [], table => (.ok 0, table)
  | (internal, kind) :: rest, table =>
      match restoreKind store directory settings internal kind table with
      | (.error error, table) => (.error error, table)
      | (.ok count, table) =>
          let (result, table) := restoreCommands store directory settings rest table
          (result.map (count + ·), table)

/-- Put all stored aliases into the table. The answer is how many were not refused. -/
def restore (store : SettingsStore τ) (directory : Directory) (desk : AliasDesk τ) :
    Except AliasError Nat × AliasDesk τ :=
  match store.loadAll root desk.settings with
  | .error error => (.error (.settings error), desk)
  | .ok commands =>
      let stored := commands.flatMap fun command =>
        [(command.name, AliasKind.input), (command.name, AliasKind.reply)]
      let (result, table) := restoreCommands store directory desk.settings stored desk.table
      (result, { desk with table })

end AliasDesk

end CommandLink
