import CommandLink.Text.Basic

/-!
# Settings paths

Keys of settings are paths of segments with slashes between them.
-/

namespace CommandLink

/-- What can go wrong with settings. -/
inductive SettingsError where
  /-- A path that names no setting. -/
  | invalidPath (path : Text)
  /-- The file could not be read or written. -/
  | io
  /-- The file holds no settings. -/
  | malformed
deriving DecidableEq, Repr

/-- What the operator is told. The texts of the outer causes are not part of it. -/
def SettingsError.message : SettingsError → Text
  | .invalidPath path => "invalid settings path '" ++ path ++ "'"
  | .io => "settings I/O error"
  | .malformed => "malformed settings file"

namespace SettingsPath

/-- A path without the slashes around it. -/
def inner (path : Text) : Text :=
  Text.strip (· == '/') path

/-- The segments of a path. -/
def segments (path : Text) : List Text :=
  path.splitOn '/'

/-- The path that a text names: without the slashes around it, none of whose segments is empty. -/
def validate (path : Text) : Except SettingsError Text :=
  if (segments (inner path)).any (·.isEmpty) then .error (.invalidPath path) else .ok (inner path)

/-- Join segments to a path. None may be empty or hold a slash. -/
def join (names : List Text) : Except SettingsError Text :=
  let path := Text.join ['/'] names
  if names.any fun name => name.isEmpty || name.contains '/' then .error (.invalidPath path)
  else .ok path

end SettingsPath

end CommandLink
