import CommandLink.Number.Decimal
import CommandLink.Pattern.Program
import CommandLink.Pattern.Property

/-!
# Reading patterns

The syntax of regular expressions. Flags hold from where they are set to the end of the group.
-/

namespace CommandLink

/-- How what follows is read. -/
structure PatternFlags where
  /-- Letters match in any case. -/
  anyCase : Bool := false
  /-- The ends of lines count as ends of the text. -/
  multiLine : Bool := false
  /-- A dot matches a line feed too. -/
  dotAll : Bool := false
  /-- Repetitions are lazy unless marked. -/
  swapGreed : Bool := false
  /-- Blanks and comments are passed over. -/
  verbose : Bool := false
  /-- A carriage return ends a line too. -/
  crlf : Bool := false
  /-- Classes go by the properties of Unicode. -/
  unicode : Bool := true

/-- How far the reading of a pattern has come. -/
structure PatternState where
  rest : Text
  flags : PatternFlags := {}
  /-- The number of groups opened so far. -/
  groups : Nat := 0
  /-- The names of groups so far. -/
  names : List Text := []

/-- A step of reading, which fails where the text is no pattern. -/
abbrev PatternReader := StateT PatternState Option

namespace PatternReader

/-- The text is no pattern. -/
def fail {α : Type} : PatternReader α := fun _ => none

/-- The next character, if there is one. -/
def peek? : PatternReader (Option Char) := do
  return (← get).rest.head?

/-- The character after the next one, if there is one. -/
def peekSecond? : PatternReader (Option Char) := do
  return (← get).rest[1]?

/-- Leave a number of characters behind. -/
def skip (count : Nat) : PatternReader Unit :=
  modify fun state => { state with rest := state.rest.drop count }

/-- Leave a text behind, if it is next. -/
def skipText (text : Text) : PatternReader Bool := do
  match Text.dropPrefix? text (← get).rest with
  | some rest =>
      modify fun state => { state with rest }
      return true
  | none => return false

/-- Take the next character, which must be there. -/
def takeChar : PatternReader Char := do
  match (← get).rest with
  | c :: rest =>
      modify fun state => { state with rest }
      return c
  | [] => fail

/-- A text without the blanks and comments at its front. -/
def dropComments : Nat → Text → Text
  | 0, text => text
  | fuel + 1, text =>
      match text.dropWhile isBlank with
      | '#' :: rest => dropComments fuel (rest.dropWhile (· != '\n'))
      | rest => rest

/-- Pass over blanks and comments, where they have no meaning. -/
def skipBlanks : PatternReader Unit :=
  modify fun state =>
    if state.flags.verbose then { state with rest := dropComments state.rest.length state.rest }
    else state

/-- The next character after one that is skipped, blanks aside. -/
def peekAfter? : PatternReader (Option Char) := do
  let state ← get
  let rest := state.rest.drop 1
  return (if state.flags.verbose then dropComments rest.length rest else rest).head?

/-- The number below `limit` of hexadecimal digits. -/
def hexChar? (digits : Text) : Option Char :=
  if digits.isEmpty || !digits.all (NamedProperty.ascii? "xdigit" |>.getD fun _ => false) then none
  else
    let code := digits.foldl (fun value digit =>
      16 * value + (if digit.isDigit then digit.toNat - 48 else digit.toLower.toNat - 87)) 0
    if code < 0xD800 || (0xDFFF < code && code < 0x110000) then some (Char.ofNat code) else none

/-- A character given by its code point, in braces or with a fixed number of digits. -/
def readHex (digits : Nat) : PatternReader Char := do
  skipBlanks
  if (← peek?) = some '{' then
    let rest := (← get).rest.drop 1
    let inside := rest.takeWhile (· != '}')
    if inside.length = rest.length then fail
    else
      skip (inside.length + 2)
      match hexChar? (if (← get).flags.verbose then inside.filter (!isBlank ·) else inside) with
      | some c => return c
      | none => fail
  else
    let inside := (← get).rest.take digits
    if inside.length < digits then fail
    else
      skip digits
      match hexChar? inside with
      | some c =>
          if digits = 2 && 0x80 ≤ c.toNat && !(← get).flags.unicode then fail else return c
      | none => fail

/-- The characters that a backslash makes plain. -/
def isPlainEscape (c : Char) : Bool :=
  c.toNat < 0x80 && !c.isAlphanum && c != '<' && c != '>'

/-- The name of a property after a backslash: one character, or several in braces. -/
def readPropertyName : PatternReader Text := do
  skipBlanks
  if (← peek?) = some '{' then
    let rest := (← get).rest.drop 1
    let inside := rest.takeWhile (· != '}')
    if inside.length = rest.length then fail
    else
      skip (inside.length + 2)
      return if (← get).flags.verbose then inside.filter (!isBlank ·) else inside
  else
    return [← takeChar]

/-- The set of a property named after a backslash, or its complement. -/
def readProperty (negated : Bool) : PatternReader CharacterSet := do
  match NamedProperty.set? (← readPropertyName) with
  | some set =>
      if !(← get).flags.unicode then fail
      else return if negated then .complement set else set
  | none => fail

/-- The set that a letter after a backslash stands for. -/
def shorthand? (unicode : Bool) (c : Char) : Option CharacterSet :=
  if c = 'd' then some (.property (if unicode then isDecimalDigit else Char.isDigit))
  else if c = 'w' then
    some (.property (if unicode then isWordCharacter
      else fun c => c.toNat < 0x80 && isWordCharacter c))
  else if c = 's' then
    some (.property (if unicode then isBlank else fun c => c.toNat < 0x80 && isBlank c))
  else none

/-- What an escape stands for. -/
inductive Escape where
  | char (c : Char)
  | set (set : CharacterSet)
  | look (look : Look)

/-- The characters of words as the flags see them. -/
def wordTest (flags : PatternFlags) (c : Char) : Bool :=
  isWordCharacter c && (flags.unicode || c.toNat < 0x80)

/-- The conditions that words in braces name after a backslash and a small B. -/
def namedBoundary? (isWord : Char → Bool) (name : Text) : Option Look :=
  if name = "start".toList then some (.wordStart isWord)
  else if name = "end".toList then some (.wordEnd isWord)
  else if name = "start-half".toList then some (.wordStartHalf isWord)
  else if name = "end-half".toList then some (.wordEndHalf isWord)
  else none

/-- A word boundary, perhaps of a special sort that is named in braces. Braces that cannot be such a
name are left for a repetition. -/
def readBoundary : PatternReader Look := do
  let isWord := wordTest (← get).flags
  match (← get).rest with
  | '{' :: inside =>
      let name := inside.takeWhile fun c => c.isAlpha || c == '-'
      if name.isEmpty then return .wordBoundary isWord
      else
        match inside.drop name.length, namedBoundary? isWord name with
        | '}' :: _, some look =>
            skip (name.length + 2)
            return look
        | _, _ => fail
  | _ => return .wordBoundary isWord

/-- Read what stands after a backslash. -/
def readEscape : PatternReader Escape := do
  let flags := (← get).flags
  let c ← takeChar
  if c.isDigit then fail
  else if c = 'x' then return .char (← readHex 2)
  else if c = 'u' then return .char (← readHex 4)
  else if c = 'U' then return .char (← readHex 8)
  else if c = 'p' then return .set (← readProperty false)
  else if c = 'P' then return .set (← readProperty true)
  else if c = 'A' then return .look .startText
  else if c = 'z' then return .look .endText
  else if c = 'b' then return .look (← readBoundary)
  else if c = 'B' then return .look (.notWordBoundary (wordTest flags))
  else if c = '<' then return .look (.wordStart (wordTest flags))
  else if c = '>' then return .look (.wordEnd (wordTest flags))
  else if c = 'a' then return .char '\x07'
  else if c = 'f' then return .char '\x0c'
  else if c = 't' then return .char '\t'
  else if c = 'n' then return .char '\n'
  else if c = 'r' then return .char '\r'
  else if c = 'v' then return .char '\x0b'
  else if isPlainEscape c then return .char c
  else
    match shorthand? flags.unicode c with
    | some set => return .set set
    | none =>
        match shorthand? flags.unicode c.toLower with
        | some set => if flags.unicode then return .set (.complement set) else fail
        | none => fail

/-- A set with the case of ASCII letters ignored. -/
def anyAsciiCase (set : CharacterSet) : CharacterSet :=
  .property fun c => set.contains c || set.contains c.toLower || set.contains c.toUpper

/-- A set with letter case ignored, if the flags say so. -/
def withCase (flags : PatternFlags) (set : CharacterSet) : CharacterSet :=
  if !flags.anyCase then set else if flags.unicode then .anyCase set else anyAsciiCase set

/-- The complement of a set, if it is negated. -/
def negateIf (negated : Bool) (set : CharacterSet) : CharacterSet :=
  if negated then .complement set else set

/-- One member of a class in brackets: a character or a set. -/
def readMember : PatternReader (Char ⊕ CharacterSet) := do
  let c ← takeChar
  let member ← if c = '\\' then readEscape else pure (.char c)
  match member with
  | .char c => if 0x80 ≤ c.toNat && !(← get).flags.unicode then fail else return .inl c
  | .set set => return .inr set
  | .look _ => fail

/-- A member of a class, or a range between two. -/
def readRange : PatternReader CharacterSet := do
  let first ← readMember
  skipBlanks
  match ← peek? with
  | none => fail
  | some c =>
      let after? ← peekAfter?
      if c != '-' || after? = some ']' || after? = some '-' then
        return match first with
          | .inl c => .single c
          | .inr set => set
      else
        skip 1
        skipBlanks
        match first, ← readMember with
        | .inl first, .inl last => if first ≤ last then return .range first last else fail
        | _, _ => fail

/-- A class of ASCII characters between brackets and colons, if one is next. -/
def asciiClass? : PatternReader (Option CharacterSet) := do
  match (← get).rest with
  | '[' :: ':' :: rest =>
      let (negated, rest) :=
        match rest with
        | '^' :: rest => (true, rest)
        | rest => (false, rest)
      let name := rest.takeWhile (· != ':')
      match rest.drop name.length, NamedProperty.ascii? name with
      | ':' :: ']' :: rest, some holds =>
          modify fun state => { state with rest }
          return some (negateIf negated (.property holds))
      | _, _ => return none
  | _ => return none

/-- A set operation inside a class. -/
inductive SetOperation where
  | inter
  | diff
  | symmDiff

/-- Apply a set operation to what stands on its left, if there is one, and to what stands on its
right. -/
def applyOperation (flags : PatternFlags) (left? : Option (SetOperation × CharacterSet))
    (right : CharacterSet) : CharacterSet :=
  match left? with
  | none => right
  | some (.inter, left) => .inter (withCase flags left) (withCase flags right)
  | some (.diff, left) => CharacterSet.diff (withCase flags left) (withCase flags right)
  | some (.symmDiff, left) => CharacterSet.symmDiff (withCase flags left) (withCase flags right)

/-- Hyphens at the front of a class, which stand for themselves. -/
def readHyphens (members : CharacterSet) : Nat → PatternReader CharacterSet
  | 0 => return members
  | fuel + 1 => do
      if (← peek?) = some '-' then
        skip 1
        skipBlanks
        readHyphens (.union members (.single '-')) fuel
      else return members

mutual

/-- Read a class after its opening bracket. -/
def readClass : Nat → PatternReader CharacterSet
  | 0 => fail
  | fuel + 1 => do
      skipBlanks
      let negated ← skipText ['^']
      skipBlanks
      let before := (← get).rest
      let members ← readHyphens .empty before.length
      let first := (← get).rest.length = before.length
      let members ←
        if first && (← peek?) = some ']' then
          skip 1
          pure (CharacterSet.union members (.single ']'))
        else pure members
      let set ← readMembers fuel none members
      let flags := (← get).flags
      if negated && !flags.unicode then fail else return negateIf negated (withCase flags set)

/-- Read the members of a class and its closing bracket. -/
def readMembers : Nat → Option (SetOperation × CharacterSet) → CharacterSet →
    PatternReader CharacterSet
  | 0, _, _ => fail
  | fuel + 1, left?, members => do
      skipBlanks
      let flags := (← get).flags
      let operation (operation : SetOperation) : PatternReader CharacterSet := do
        skip 2
        readMembers fuel (some (operation, applyOperation flags left? members)) .empty
      match ← peek?, ← peekSecond? with
      | none, _ => fail
      | some '[', _ =>
          match ← asciiClass? with
          | some set => readMembers fuel left? (.union members set)
          | none =>
              skip 1
              let set ← readClass fuel
              readMembers fuel left? (.union members set)
      | some ']', _ =>
          skip 1
          return applyOperation flags left? members
      | some '&', some '&' => operation .inter
      | some '-', some '-' => operation .diff
      | some '~', some '~' => operation .symmDiff
      | some _, _ =>
          let set ← readRange
          readMembers fuel left? (.union members set)

end

/-- Set a flag by its letter. -/
def setFlag? (flags : PatternFlags) (value : Bool) (c : Char) : Option PatternFlags :=
  if c = 'i' then some { flags with anyCase := value }
  else if c = 'm' then some { flags with multiLine := value }
  else if c = 's' then some { flags with dotAll := value }
  else if c = 'U' then some { flags with swapGreed := value }
  else if c = 'x' then some { flags with verbose := value }
  else if c = 'R' then some { flags with crlf := value }
  else if c = 'u' then some { flags with unicode := value }
  else none

/-- Read flags up to the colon or parenthesis that ends them. No flag comes twice, and a minus sign,
of which there is one at most, is followed by a flag. -/
def readFlags : Nat → List Char → Bool → PatternFlags → PatternReader (PatternFlags × List Char × Char)
  | 0, _, _, _ => fail
  | fuel + 1, seen, value, flags => do
      let c ← takeChar
      if c = ':' || c = ')' then
        if seen.head? = some '-' then fail else return (flags, seen, c)
      else if c = '-' then
        if seen.contains '-' then fail else readFlags fuel ('-' :: seen) false flags
      else
        match setFlag? flags value c with
        | some flags => if seen.contains c then fail else readFlags fuel (c :: seen) value flags
        | none => fail

/-- Whether a character may be part of the name of a group. -/
def isNameChar (first : Bool) (c : Char) : Bool :=
  c == '_' || NamedProperty.isAlphabetic c ||
    (!first && ([.nd, .nl, .no].contains (Category.of c) || c == '.' || c == '[' || c == ']'))

/-- Read the name of a group, up to its closing angle bracket. No two groups have one name. -/
def readName : PatternReader Unit := do
  let rest := (← get).rest
  let name := rest.takeWhile (· != '>')
  let proper :=
    match name with
    | [] => false
    | c :: others => isNameChar true c && others.all (isNameChar false)
  if !proper || name.length = rest.length || (← get).names.contains name then fail
  else modify fun state =>
    { state with rest := rest.drop (name.length + 1), names := name :: state.names }

/-- Pass over white space. -/
def skipSpace : PatternReader Unit :=
  modify fun state => { state with rest := state.rest.dropWhile isBlank }

/-- Take the digits that are next. Blanks between them are passed over where they have no
meaning. -/
def takeDigits : Nat → PatternReader Text
  | 0 => return []
  | fuel + 1 => do
      match (← get).rest with
      | c :: rest =>
          if c.isDigit then
            modify fun state => { state with rest }
            skipBlanks
            return c :: (← takeDigits fuel)
          else return []
      | [] => return []

/-- Read a number of repetitions. There may be white space around it. -/
def readCount : PatternReader Nat := do
  skipBlanks
  skipSpace
  let digits ← takeDigits (← get).rest.length
  skipSpace
  skipBlanks
  if digits.isEmpty || 0x100000000 ≤ digitsValue digits then fail else return digitsValue digits

/-- Read the bounds of a counted repetition after its opening brace. -/
def readBounds : PatternReader (Nat × Option Nat) := do
  let least ← readCount
  let bounds ←
    if ← skipText [','] then
      skipBlanks
      if (← peek?) = some '}' then pure (least, none)
      else
        let most ← readCount
        pure (least, some most)
    else pure (least, some least)
  if !(← skipText ['}']) || bounds.2.any (· < least) then fail
  else
    skipBlanks
    return bounds

/-- The condition of a caret. -/
def startLook (flags : PatternFlags) : Look :=
  if !flags.multiLine then .startText else if flags.crlf then .startCrlfLine else .startLine

/-- The condition of a dollar sign. -/
def endLook (flags : PatternFlags) : Look :=
  if !flags.multiLine then .endText else if flags.crlf then .endCrlfLine else .endLine

/-- The characters that a dot matches. -/
def dotSet (flags : PatternFlags) : CharacterSet :=
  if flags.dotAll then .property fun _ => true
  else if flags.crlf then .property fun c => c != '\n' && c != '\r'
  else .property fun c => c != '\n'

/-- What has been read of a sequence: what may be repeated, or something that may not. -/
inductive Item where
  | pattern (pattern : Pattern)
  | flags

/-- The patterns in order. -/
def sequenceOf (reversed : List Item) : Pattern :=
  reversed.foldl (fun later item =>
    match item, later with
    | .flags, later => later
    | .pattern pattern, .empty => pattern
    | .pattern pattern, later => .sequence pattern later) .empty

/-- Repeat what was read last, which must be something that can be repeated. -/
def repeatLast (items : List Item) (least : Nat) (most? : Option Nat) : PatternReader (List Item) := do
  match items with
  | .pattern pattern :: before =>
      let lazy ← skipText ['?']
      let greedy := (!lazy) != (← get).flags.swapGreed
      return .pattern (.repetition pattern least most? greedy) :: before
  | _ => fail

/-- The repetition of an operator. -/
def bounds? (c : Char) : Option (Nat × Option Nat) :=
  if c = '?' then some (0, some 1)
  else if c = '*' then some (0, none)
  else if c = '+' then some (1, none)
  else none

mutual

/-- Read alternatives up to the end of the group or of the text. `depth` groups may still be nested
inside. -/
def readChoice : Nat → Nat → PatternReader Pattern
  | 0, _ => fail
  | fuel + 1, depth => do
      let first ← readSequence fuel depth []
      if ← skipText ['|'] then return .choice first (← readChoice fuel depth) else return first

/-- Read a sequence up to a bar or the end of the group or of the text. -/
def readSequence : Nat → Nat → List Item → PatternReader Pattern
  | 0, _, _ => fail
  | fuel + 1, depth, items => do
      skipBlanks
      let flags := (← get).flags
      let add (pattern : Pattern) : PatternReader Pattern :=
        readSequence fuel depth (.pattern pattern :: items)
      match ← peek? with
      | none => return sequenceOf items
      | some '|' => return sequenceOf items
      | some ')' => return sequenceOf items
      | some '(' =>
          skip 1
          skipBlanks
          let item ← readGroup fuel depth
          readSequence fuel depth (item :: items)
      | some '[' =>
          skip 1
          add (.set (← readClass fuel))
      | some '{' =>
          skip 1
          let (least, most?) ← readBounds
          readSequence fuel depth (← repeatLast items least most?)
      | some '\\' =>
          skip 1
          match ← readEscape with
          | .char c => add (.set (withCase flags (.single c)))
          | .set set => add (.set (withCase flags set))
          | .look look => add (.look look)
      | some '.' =>
          skip 1
          if flags.unicode then add (.set (dotSet flags)) else fail
      | some '^' =>
          skip 1
          add (.look (startLook flags))
      | some '$' =>
          skip 1
          add (.look (endLook flags))
      | some c =>
          skip 1
          match bounds? c with
          | some (least, most?) => readSequence fuel depth (← repeatLast items least most?)
          | none => add (.set (withCase flags (.single c)))

/-- Read a group after its opening parenthesis. -/
def readGroup : Nat → Nat → PatternReader Item
  | 0, _ => fail
  | fuel + 1, depth => do
      let outer := (← get).flags
      let body (wrap : Pattern → Pattern) : PatternReader Item := do
        match depth with
        | 0 => fail
        | depth + 1 =>
            let pattern ← readChoice fuel depth
            if ← skipText [')'] then
              modify fun state => { state with flags := outer }
              return .pattern (wrap pattern)
            else fail
      let capture : PatternReader Item := do
        let number := (← get).groups
        modify fun state => { state with groups := number + 1 }
        body (if number = 0 then .firstGroup else id)
      if (← skipText "?=") || (← skipText "?!") || (← skipText "?<=") || (← skipText "?<!") then fail
      else if (← skipText "?P<") || (← skipText "?<") then
        readName
        capture
      else if ← skipText "?" then
        let (flags, seen, last) ← readFlags (← get).rest.length [] true outer
        if last = ')' then
          if seen.isEmpty then fail
          else
            modify fun state => { state with flags }
            return .flags
        else
          modify fun state => { state with flags }
          body id
      else capture

end

end PatternReader

namespace Pattern

/-- How deep groups may be nested. -/
def deepest : Nat := 250

/-- How many instructions the program of a pattern may have. -/
def longest : Nat := 327680

/-- The pattern that a text spells, if it is one and its program is not too long. -/
def read? (text : Text) : Option Pattern :=
  match (PatternReader.readChoice (3 * text.length + 3) deepest).run { rest := text } with
  | some (pattern, state) =>
      if state.rest.isEmpty && Program.size pattern ≤ longest then some pattern else none
  | none => none

end Pattern

end CommandLink
