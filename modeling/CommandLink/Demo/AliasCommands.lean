import CommandLink.Alias.Manager
import CommandLink.Component.Cell

/-!
# Alias commands

The administration of aliases as commands of a component of its own.
-/

namespace CommandLink

/-- Where in the state of a device aliases are administered. -/
structure AliasOffice (σ τ : Type) where
  desk : Cell σ (AliasDesk τ)
  store : SettingsStore τ
  /-- Whether the desk is still there. -/
  isOpen : σ → Bool

namespace AliasOffice

variable {σ τ α : Type}

/-- The text of an argument, empty if there is none. -/
def argument (arguments : List Value) (place : Nat) : Text :=
  (arguments[place]?.bind (·.toText?)).getD []

/-- Do something at the desk, if it is there. -/
def visit (office : AliasOffice σ τ)
    (work : AliasDesk τ → Except AliasError α × AliasDesk τ) (state : σ) : Except Fault α × σ :=
  if office.isOpen state then
    let (result, desk) := work (office.desk.read state)
    (result.mapError fun error => .error error.message, office.desk.write desk state)
  else (.error (.error "alias manager unavailable"), state)

/-- An operation that adds an alias. -/
def adding (office : AliasOffice σ τ) (name : Text) (kind : AliasKind) : Operation σ :=
  .action name fun directory arguments =>
    office.visit
      (AliasDesk.add office.store directory kind (argument arguments 0) (argument arguments 1))

/-- A query that tells whether anything was removed. -/
def removing (office : AliasOffice σ τ) (name : Text)
    (remove : List Value → AliasDesk τ → Except AliasError Bool × AliasDesk τ) : Operation σ where
  name
  handler _ arguments state :=
    let (result, state) := office.visit (remove arguments) state
    (result.map .bool, state)

/-- The aliases of a command as a value. -/
def recordValue (record : AliasRecord) : Value :=
  .object [
    ("aliases", .array (record.inputs.map .string)),
    ("command", .string record.internal),
    ("replies", .array (record.replies.map .string))]

/-- The operations of the administration. -/
def operations (office : AliasOffice σ τ) : List (Operation σ) := [
  { office.adding "AddAlias" .input with
    parameters := [⟨"command", .string⟩, ⟨"alias", .string⟩] },
  { office.adding "AddReply" .reply with
    parameters := [⟨"command", .string⟩, ⟨"reply", .string⟩] },
  { office.removing "RemoveAlias" fun arguments =>
      AliasDesk.remove office.store .input (argument arguments 0) (argument arguments 1) with
    parameters := [⟨"command", .string⟩, ⟨"alias", .string⟩] },
  { office.removing "ClearAliases" fun arguments =>
      AliasDesk.clear office.store (argument arguments 0) with
    parameters := [⟨"command", .string⟩] },
  { name := "ListAliases"
    handler := fun _ _ =>
      office.visit fun desk => (.ok (.array (desk.table.map recordValue)), desk) }]

/-- The administration as a component. -/
def component (identity : Nat) (office : AliasOffice σ τ) : Component σ where
  identity
  name := "Aliases"
  operations := office.operations

end AliasOffice

end CommandLink
