import CommandLink.Line.Arguments

/-!
# Lines

A request line: a dotted command path, and after the first colon its arguments.

    Command
    Command:first,second
    Component.Child.Command:[1, 2]
-/

namespace CommandLink

/-- A line taken apart. -/
structure Line where
  /-- The segments of the command path, none of them empty. -/
  segments : List Text
  /-- The arguments, if the line has an argument section at all. -/
  arguments? : Option (List Text)
deriving DecidableEq, Repr

namespace Line

/-- The segments of a command path, trimmed, without the empty ones. -/
def pathSegments (path : Text) : List Text :=
  ((path.splitOn '.').map Text.trim).filter (!·.isEmpty)

/-- Take a line apart. -/
def parse (input : Text) : Line :=
  let (path, arguments?) := Text.cut ':' (Text.trim input)
  { segments := pathSegments path
    arguments? := arguments?.map Arguments.split }

/-- The arguments, none without an argument section. -/
def arguments (line : Line) : List Text :=
  line.arguments?.getD []

/-- The command name: the last segment, or nothing. -/
def name (line : Line) : Text :=
  line.segments.getLast?.getD []

/-- The segments before the command name. -/
def qualifiers (line : Line) : List Text :=
  line.segments.dropLast

end Line

end CommandLink
