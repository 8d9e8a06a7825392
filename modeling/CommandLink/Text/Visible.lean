import CommandLink.Text.Basic
import CommandLink.Text.Category

/-!
# Visible texts

A text in quotes with an escape for everything that would not show as a character of its own, as
messages quote it.
-/

namespace CommandLink.Visible

/-- Spacing marks and other characters that extend the one before them. -/
def isOtherExtender (code : Nat) : Bool :=
  [0x9BE, 0x9D7, 0xB3E, 0xB57, 0xBBE, 0xBD7, 0xCC0, 0xCC2, 0xCC7, 0xCC8, 0xCCA, 0xCCB, 0xCD5,
    0xCD6, 0xD3E, 0xD57, 0xDCF, 0xDDF, 0x1715, 0x1734, 0x1B35, 0x1B3B, 0x1B3D, 0x1B43, 0x1B44,
    0x1BAA, 0x1BF2, 0x1BF3, 0x302E, 0x302F, 0xA953, 0xA9C0, 0xFF9E, 0xFF9F, 0x111C0, 0x11235,
    0x1133E, 0x1134D, 0x11357, 0x113B8, 0x113C2, 0x113C5, 0x113C7, 0x113C8, 0x113C9, 0x113CF,
    0x114B0, 0x114BD, 0x115AF, 0x116B6, 0x11930, 0x1193D, 0x11F41, 0x16FF0, 0x16FF1, 0x1D165,
    0x1D166, 0x1D16D, 0x1D16E, 0x1D16F, 0x1D170, 0x1D171, 0x1D172].contains code

/-- Whether a character shows by itself: it has a glyph and extends no other. -/
def shows (c : Char) : Bool :=
  if c.toNat < 0x7F then 0x20 ≤ c.toNat
  else match Category.of c with
  | .cc | .cf | .cs | .co | .cn | .zl | .zp | .zs | .mn | .me => false
  | _ => !isOtherExtender c.toNat

/-- A character inside quotes. -/
def escape (c : Char) : Text :=
  if c = '"' || c = '\\' then ['\\', c]
  else if c = '\n' then "\\n"
  else if c = '\r' then "\\r"
  else if c = '\t' then "\\t"
  else if c = '\x00' then "\\0"
  else if shows c then [c]
  else "\\u\x7b" ++ Nat.toDigits 16 c.toNat ++ "\x7d"

/-- A text in quotes. -/
def quote (text : Text) : Text :=
  '"' :: (text.flatMap escape ++ ['"'])

end CommandLink.Visible
