import CommandLink.Text.Basic

/-!
# Alias tables

Operators give commands further names. An input alias stands for its command at the front of a line;
a reply alias is sent in place of a whole line, and is also what comes back when the command
completes.
-/

namespace CommandLink

/-- The two sorts of aliases. -/
inductive AliasKind where
  | input
  | reply
deriving DecidableEq, Repr

/-- The aliases of one internal command. -/
structure AliasRecord where
  internal : Text
  inputs : List Text := []
  replies : List Text := []
deriving DecidableEq, Repr

namespace AliasRecord

/-- The aliases of one sort. -/
def texts (record : AliasRecord) : AliasKind → List Text
  | .input => record.inputs
  | .reply => record.replies

/-- Replace the aliases of one sort. -/
def setTexts (record : AliasRecord) (kind : AliasKind) (texts : List Text) : AliasRecord :=
  match kind with
  | .input => { record with inputs := texts }
  | .reply => { record with replies := texts }

/-- Whether an alias is there, in any letter case. -/
def has (record : AliasRecord) (kind : AliasKind) (text : Text) : Bool :=
  (record.texts kind).any (Text.sameName · text)

/-- Add an alias, unless it is there already. -/
def add (record : AliasRecord) (kind : AliasKind) (text : Text) : AliasRecord :=
  if record.has kind text then record else record.setTexts kind (record.texts kind ++ [text])

/-- Remove an alias, however it is spelled. -/
def remove (record : AliasRecord) (kind : AliasKind) (text : Text) : AliasRecord :=
  record.setTexts kind ((record.texts kind).filter (!Text.sameName · text))

/-- Whether a command has no aliases at all. -/
def isEmpty (record : AliasRecord) : Bool :=
  record.inputs.isEmpty && record.replies.isEmpty

/-- Two records are of the same command. -/
def sameCommand (left right : AliasRecord) : Bool :=
  left.internal == right.internal

/-- What follows an alias at the front of a line, in any letter case. -/
def afterAlias? (text input : Text) : Option Text :=
  if Text.sameName (input.take text.length) text then some (input.drop text.length) else none

/-- The arguments that follow an alias: nothing, or after a colon or a blank the trimmed rest. -/
def parameters? : Text → Option Text
  | [] => some []
  | c :: rest => if c = ':' || isBlank c then some (Text.trim rest) else none

/-- The internal command with these arguments. -/
def withParameters (record : AliasRecord) (parameters : Text) : Text :=
  if parameters.isEmpty then record.internal else record.internal ++ ':' :: parameters

/-- The line that a line stands for, if it begins with one of the input aliases. -/
def expand? (record : AliasRecord) (input : Text) : Option Text :=
  record.inputs.findSome? fun text =>
    ((afterAlias? text input).bind parameters?).map record.withParameters

end AliasRecord

/-- The aliases of all commands, one record for each that has any. -/
abbrev AliasTable := List AliasRecord

namespace AliasTable

/-- The record of a command. -/
def record? (table : AliasTable) (internal : Text) : Option AliasRecord :=
  table.find? (·.internal == internal)

/-- Another command that has a text among its input aliases. -/
def rival? (table : AliasTable) (internal text : Text) : Option AliasRecord :=
  table.find? fun record => record.internal != internal && record.has .input text

/-- Add an alias to the record of a command, or to a new one at the end. -/
def add (kind : AliasKind) (internal text : Text) : AliasTable → AliasTable
  | [] => [({ internal } : AliasRecord).add kind text]
  | record :: rest =>
      if record.internal = internal then record.add kind text :: rest
      else record :: add kind internal text rest

/-- Whether a command has an alias. -/
def has (table : AliasTable) (kind : AliasKind) (internal text : Text) : Bool :=
  ((table.record? internal).map (·.has kind text)).getD false

/-- Remove an alias of a command, and its record if it becomes empty. -/
def forget (kind : AliasKind) (internal text : Text) : AliasTable → AliasTable
  | [] => []
  | record :: rest =>
      if record.internal = internal then
        if (record.remove kind text).isEmpty then rest else record.remove kind text :: rest
      else record :: forget kind internal text rest

/-- Remove all aliases of a command. -/
def clear (table : AliasTable) (internal : Text) : AliasTable :=
  table.filter (·.internal != internal)

/-- The reply aliases of a command, in any letter case. -/
def repliesFor (table : AliasTable) (internal : Text) : List Text :=
  ((table.find? fun record => Text.sameName record.internal internal).map (·.replies)).getD []

/-- The internal command that a line stands for, if it uses an alias: as a whole it is a reply, or
it begins with an input alias. -/
def expand? (table : AliasTable) (input : Text) : Option Text :=
  let line := Text.trim input
  match table.find? (·.has .reply line) with
  | some record => some record.internal
  | none => table.findSome? (·.expand? line)

end AliasTable

end CommandLink
