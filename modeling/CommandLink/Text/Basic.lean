/-!
# Text

Lines, names and messages are texts: lists of characters, taken apart one character at a time.
This module holds the text type, the white space that trimming removes, the comparison of names
that ignores ASCII letter case, and the few ways of cutting and joining that the rest uses.
-/

namespace CommandLink

/-- A text is the list of its characters. -/
abbrev Text := List Char

/-- A string literal stands for the list of its characters. -/
instance : Coe String Text := ⟨String.toList⟩

/-- White space as Unicode defines it: the 25 characters with the property `White_Space`. -/
def isBlank (c : Char) : Bool :=
  let code := c.toNat
  (0x09 ≤ code && code ≤ 0x0D) || code == 0x20 || code == 0x85 || code == 0xA0 ||
    code == 0x1680 || (0x2000 ≤ code && code ≤ 0x200A) || code == 0x2028 || code == 0x2029 ||
    code == 0x202F || code == 0x205F || code == 0x3000

namespace Text

/-- Remove the characters satisfying `drop` from both ends. -/
def strip (drop : Char → Bool) (text : Text) : Text :=
  ((text.dropWhile drop).reverse.dropWhile drop).reverse

/-- Remove white space from both ends. -/
def trim (text : Text) : Text :=
  strip isBlank text

/-- Lower-case the ASCII letters and keep every other character. -/
def foldCase (text : Text) : Text :=
  text.map Char.toLower

/-- Two texts name the same thing when they differ at most in the case of ASCII letters. -/
def sameName (left right : Text) : Bool :=
  foldCase left == foldCase right

/-- Cut at the first `separator`, which belongs to neither part. Without a separator the first part
is the whole text and there is no second one. -/
def cut (separator : Char) (text : Text) : Text × Option Text :=
  (text.takeWhile (· != separator),
    match text.dropWhile (· != separator) with
    | [] => none
    | _ :: rest => some rest)

/-- The texts in order, with `separator` between neighbours. -/
def join (separator : Text) (pieces : List Text) : Text :=
  separator.intercalate pieces

/-- What follows `start` at the front of a text, if the text starts with it. -/
def dropPrefix? : Text → Text → Option Text
  | [], text => some text
  | _ :: _, [] => none
  | c :: start, d :: text => if c = d then dropPrefix? start text else none

/-- The decimal digits of a natural number. -/
def ofNat (n : Nat) : Text :=
  Nat.toDigits 10 n

/-- The decimal digits of an integer, after a minus sign if it is negative. -/
def ofInt : Int → Text
  | .ofNat n => ofNat n
  | .negSucc n => '-' :: ofNat (n + 1)

end Text

end CommandLink
