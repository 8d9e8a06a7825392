import CommandLink.Pattern.Reader
import CommandLink.Pattern.Search

/-!
# Framers

How a stream of text is cut into messages: at terminators, or where a pattern matches, and after how
long a pause what is there is taken as it is.
-/

namespace CommandLink

/-- How messages are told apart, as it is configured. -/
structure FramerConfig where
  /-- The characters that end a message. Without any, nothing but a pattern or a pause does. -/
  terminator : Text := "\n"
  /-- The regular expression that a whole message matches. -/
  pattern? : Option Text := none
  /-- How many milliseconds after the first fragment of a message it is taken as it is. -/
  masterTimeout : Nat := 5000
  /-- How many milliseconds of silence a message is waited for. -/
  dataTimeout : Nat := 500
deriving DecidableEq, Repr

/-- How messages are told apart, with the pattern ready for use. -/
structure Framer where
  terminators : List Char := []
  pattern? : Option Pattern := none
  masterTimeout : Nat
  dataTimeout : Nat

namespace FramerConfig

/-- For serial lines: either line ending ends a message, and pauses are short. -/
def serial : FramerConfig :=
  ⟨"\r\n", none, 2000, 100⟩

/-- For replies of a known form: a message is what the pattern matches. -/
def withPattern (pattern : Text) : FramerConfig :=
  ⟨[], some pattern, 5000, 500⟩

/-- The framer of a configuration, unless the pattern is ill-formed. -/
def framer? (config : FramerConfig) : Option Framer :=
  match config.pattern? with
  | none => some ⟨config.terminator, none, config.masterTimeout, config.dataTimeout⟩
  | some text =>
      (Pattern.read? text).map fun pattern =>
        ⟨config.terminator, some pattern, config.masterTimeout, config.dataTimeout⟩

end FramerConfig

end CommandLink
