import CommandLink.Value.Reader

/-!
# Arguments

How the argument section of a line is cut at its commas. Commas inside brackets, braces or quotes
belong to an argument.
-/

namespace CommandLink

namespace Arguments

/-- Where a scan stands with respect to quotes. -/
inductive Quoting where
  /-- Outside quotes. -/
  | outside
  /-- Inside quotes. -/
  | inside
  /-- Inside quotes, after a backslash. -/
  | escaped
deriving DecidableEq, Repr

/-- Where a scan stands: how many brackets and braces are open, and whether a quote is. -/
structure Position where
  depth : Nat
  quoting : Quoting
deriving DecidableEq, Repr

namespace Position

/-- The beginning of an argument section. -/
def start : Position := ⟨0, .outside⟩

/-- The position after a character. A closing bracket that nothing opened is passed over. -/
def next (position : Position) (c : Char) : Position :=
  match position.quoting with
  | .escaped => { position with quoting := .inside }
  | .inside =>
      if c = '\\' then { position with quoting := .escaped }
      else if c = '"' then { position with quoting := .outside }
      else position
  | .outside =>
      if c = '"' then { position with quoting := .inside }
      else if c = '[' || c = '{' then { position with depth := position.depth + 1 }
      else if c = ']' || c = '}' then { position with depth := position.depth - 1 }
      else position

/-- Whether a character at this position separates two arguments. -/
def separates (position : Position) (c : Char) : Bool :=
  c == ',' && position.depth == 0 && position.quoting == .outside

end Position

/-- The pieces between the separating commas of a text that begins at `position`. -/
def pieces (position : Position) : Text → List Text
  | [] => [[]]
  | c :: rest =>
      if position.separates c then [] :: pieces position rest
      else (pieces (position.next c) rest).modifyHead (c :: ·)

/-- Cut at the separating commas and trim what lies between them. -/
def scan (raw : Text) : List Text :=
  (pieces .start raw).map Text.trim

/-- Whether a text begins as an object, an array or a string does. -/
def opensDocument : Text → Bool
  | c :: _ => c == '{' || c == '[' || c == '"'
  | [] => false

/-- The arguments of an argument section. One whole document is one argument; an empty section is
one empty argument. -/
def split (raw : Text) : List Text :=
  let whole := Text.trim raw
  if opensDocument whole && (Value.read? whole).isSome then [whole] else scan raw

end Arguments

end CommandLink
