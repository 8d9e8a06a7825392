import CommandLink.Pattern.CharacterSet

/-!
# Patterns

Regular expressions, and the places in a text that a pattern can look at without taking a character.
-/

namespace CommandLink

/-- A condition on a place in a text. -/
inductive Look where
  | startText
  | endText
  /-- Also after a line feed. -/
  | startLine
  /-- Also before a line feed. -/
  | endLine
  /-- Also after a line ending of a carriage return, a line feed, or both. -/
  | startCrlfLine
  /-- Also before such a line ending. -/
  | endCrlfLine
  | wordBoundary (isWord : Char → Bool)
  | notWordBoundary (isWord : Char → Bool)
  | wordStart (isWord : Char → Bool)
  | wordEnd (isWord : Char → Bool)
  /-- No word character stands before. -/
  | wordStartHalf (isWord : Char → Bool)
  /-- No word character stands after. -/
  | wordEndHalf (isWord : Char → Bool)

/-- Whether a condition holds between the character before a place and the one after it. -/
def Look.holds (look : Look) (before after : Option Char) : Bool :=
  match look with
  | .startText => before.isNone
  | .endText => after.isNone
  | .startLine => before.isNone || before == some '\n'
  | .endLine => after.isNone || after == some '\n'
  | .startCrlfLine =>
      before.isNone || before == some '\n' || (before == some '\r' && after != some '\n')
  | .endCrlfLine =>
      after.isNone || after == some '\r' || (after == some '\n' && before != some '\r')
  | .wordBoundary isWord => before.any isWord != after.any isWord
  | .notWordBoundary isWord => before.any isWord == after.any isWord
  | .wordStart isWord => !before.any isWord && after.any isWord
  | .wordEnd isWord => before.any isWord && !after.any isWord
  | .wordStartHalf isWord => !before.any isWord
  | .wordEndHalf isWord => !after.any isWord

/-- A regular expression. Of two ways to match, the one that comes first is preferred. -/
inductive Pattern where
  | empty
  | set (set : CharacterSet)
  | look (look : Look)
  /-- The first group, whose part of a match is remembered. -/
  | firstGroup (body : Pattern)
  | sequence (first second : Pattern)
  | choice (first second : Pattern)
  /-- From `least` to `most?` times; as often as possible if `greedy`, else as rarely. -/
  | repetition (body : Pattern) (least : Nat) (most? : Option Nat) (greedy : Bool)

namespace Pattern

/-- Whether a pattern can match nothing at all. -/
def nullable : Pattern → Bool
  | .empty => true
  | .set _ => false
  | .look _ => true
  | .firstGroup body => body.nullable
  | .sequence first second => first.nullable && second.nullable
  | .choice first second => first.nullable || second.nullable
  | .repetition body least _ _ => least == 0 || body.nullable

/-- Whether a pattern never takes a character. -/
def onlyEmpty : Pattern → Bool
  | .empty => true
  | .set _ => false
  | .look _ => true
  | .firstGroup body => body.onlyEmpty
  | .sequence first second => first.onlyEmpty && second.onlyEmpty
  | .choice first second => first.onlyEmpty && second.onlyEmpty
  | .repetition body _ most? _ => most? == some 0 || body.onlyEmpty

end Pattern

end CommandLink
