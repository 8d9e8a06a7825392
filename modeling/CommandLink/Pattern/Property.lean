import CommandLink.Pattern.CharacterSet
import CommandLink.Pattern.Script

/-!
# Named properties

The classes of characters that patterns name: the general categories with their groups, the scripts,
a few other properties, and the classes of ASCII characters.
-/

namespace CommandLink.NamedProperty

/-- Names are compared without letter case, spaces, hyphens and underscores, and without an `is` in
front. -/
def normalize (name : Text) : Text :=
  let small := Text.foldCase name
  let inner := ((Text.dropPrefix? "is" small).getD small).filter fun c =>
    c.toNat < 0x80 && c != ' ' && c != '-' && c != '_'
  if inner = ['c'] && small != ['c'] then "isc" else inner

/-- The general categories and their groups, under their short and long names. -/
def categories : List (List String × List Category) := [
  (["lu", "uppercaseletter"], [.lu]),
  (["ll", "lowercaseletter"], [.ll]),
  (["lt", "titlecaseletter"], [.lt]),
  (["lm", "modifierletter"], [.lm]),
  (["lo", "otherletter"], [.lo]),
  (["lc", "casedletter"], [.lu, .ll, .lt]),
  (["l", "letter"], [.lu, .ll, .lt, .lm, .lo]),
  (["mn", "nonspacingmark"], [.mn]),
  (["mc", "spacingmark"], [.mc]),
  (["me", "enclosingmark"], [.me]),
  (["m", "mark", "combiningmark"], [.mn, .mc, .me]),
  (["nd", "decimalnumber", "digit"], [.nd]),
  (["nl", "letternumber"], [.nl]),
  (["no", "othernumber"], [.no]),
  (["n", "number"], [.nd, .nl, .no]),
  (["pc", "connectorpunctuation"], [.pc]),
  (["pd", "dashpunctuation"], [.pd]),
  (["ps", "openpunctuation"], [.ps]),
  (["pe", "closepunctuation"], [.pe]),
  (["pi", "initialpunctuation"], [.pi]),
  (["pf", "finalpunctuation"], [.pf]),
  (["po", "otherpunctuation"], [.po]),
  (["p", "punctuation", "punct"], [.pc, .pd, .ps, .pe, .pi, .pf, .po]),
  (["sm", "mathsymbol"], [.sm]),
  (["sc", "currencysymbol"], [.sc]),
  (["sk", "modifiersymbol"], [.sk]),
  (["so", "othersymbol"], [.so]),
  (["s", "symbol"], [.sm, .sc, .sk, .so]),
  (["zs", "spaceseparator"], [.zs]),
  (["zl", "lineseparator"], [.zl]),
  (["zp", "paragraphseparator"], [.zp]),
  (["z", "separator"], [.zs, .zl, .zp]),
  (["cc", "control", "cntrl"], [.cc]),
  (["cf", "format"], [.cf]),
  (["cs", "surrogate"], [.cs]),
  (["co", "privateuse"], [.co]),
  (["cn", "unassigned"], [.cn]),
  (["c", "other"], [.cc, .cf, .cs, .co, .cn])]

/-- Letters and what else counts as one. -/
def isAlphabetic (c : Char) : Bool :=
  match Category.of c with
  | .lu | .ll | .lt | .lm | .lo | .nl => true
  | .mn | .mc => false
  | _ => LetterCase.isOtherCased c.toNat

/-- Small letters and what else counts as one. -/
def isLowercase (c : Char) : Bool :=
  match Category.of c with
  | .ll => true
  | .lu | .lt => false
  | _ =>
      LetterCase.isOtherCased c.toNat &&
        !((0x2160 ≤ c.toNat && c.toNat ≤ 0x216F) || (0x24B6 ≤ c.toNat && c.toNat ≤ 0x24CF) ||
          0x1F130 ≤ c.toNat)

/-- Capital letters and what else counts as one. -/
def isUppercase (c : Char) : Bool :=
  Category.of c == .lu ||
    (LetterCase.isOtherCased c.toNat && !isLowercase c && Category.of c != .lt)

/-- Groups that count as general categories. -/
def wholes : List (List String × (Char → Bool)) := [
  (["any"], fun _ => true),
  (["ascii"], fun c => c.toNat < 0x80),
  (["assigned"], fun c => Category.of c != .cn)]

/-- Properties other than general categories. -/
def others : List (List String × (Char → Bool)) := [
  (["alphabetic", "alpha"], isAlphabetic),
  (["lowercase", "lower"], isLowercase),
  (["uppercase", "upper"], isUppercase),
  (["cased"], LetterCase.isCased),
  (["caseignorable", "ci"], LetterCase.isIgnorable),
  (["whitespace", "wspace", "space"], isBlank)]

/-- The entry of a table that lists something under several names. -/
def listed? {α : Type} (table : List (List String × α)) (name : Text) : Option α :=
  (table.find? fun (names, _) => names.any (·.toList == name)).map (·.2)

/-- The characters with a general category of this name, or of one of the groups that count as
one. -/
def category? (name : Text) : Option CharacterSet :=
  ((listed? wholes name).map .property).or
    ((listed? categories name).map fun members =>
      .property fun c => members.contains (Category.of c))

/-- The characters of a script of this name. -/
def script? (name : Text) : Option CharacterSet :=
  (listed? Script.table name).map fun ranges =>
    .property fun c => ranges.any fun (first, last) => first ≤ c.toNat && c.toNat ≤ last

/-- The characters with a property of this name: a property of its own, a general category or a
script. -/
def property? (name : Text) : Option CharacterSet :=
  (((listed? others name).map .property).or (category? name)).or (script? name)

/-- The characters for which a property, given by its name, has a value. -/
def valued? (name value : Text) : Option CharacterSet :=
  if ["gc".toList, "generalcategory".toList].contains name then category? value
  else if ["sc".toList, "script".toList].contains name then script? value
  else none

/-- A name in braces, taken apart at the sign of an equation: whether it is negated, the name of the
property, and the value if there is one. -/
def equation (name : Text) : Bool × Text × Option Text :=
  match Text.cut '!' name with
  | (before, some ('=' :: after)) => (true, before, some after)
  | _ =>
      match Text.cut ':' name with
      | (before, some after) => (false, before, some after)
      | _ => (false, Text.cut '=' name)

/-- The characters that a name in braces stands for. -/
def set? (name : Text) : Option CharacterSet :=
  match equation name with
  | (_, name, none) => property? (normalize name)
  | (negated, name, some value) =>
      (valued? (normalize name) (normalize value)).map fun set =>
        if negated then .complement set else set

/-- Whether a character is between two others. -/
def between (first last c : Char) : Bool :=
  first ≤ c && c ≤ last

/-- Letters and digits of ASCII. -/
def isAlnum (c : Char) : Bool :=
  between 'a' 'z' c || between 'A' 'Z' c || between '0' '9' c

/-- The classes of ASCII characters under their names. -/
def asciiClasses : List (String × (Char → Bool)) := [
  ("alnum", isAlnum),
  ("alpha", fun c => between 'a' 'z' c || between 'A' 'Z' c),
  ("ascii", fun c => c.toNat < 0x80),
  ("blank", fun c => c == ' ' || c == '\t'),
  ("cntrl", fun c => c.toNat < 0x20 || c.toNat == 0x7F),
  ("digit", between '0' '9'),
  ("graph", between '!' '~'),
  ("lower", between 'a' 'z'),
  ("print", between ' ' '~'),
  ("punct", fun c => between '!' '~' c && !isAlnum c),
  ("space", fun c => c == ' ' || between '\t' '\r' c),
  ("upper", between 'A' 'Z'),
  ("word", fun c => isAlnum c || c == '_'),
  ("xdigit", fun c => between '0' '9' c || between 'a' 'f' c || between 'A' 'F' c)]

/-- The class of ASCII characters of a name. -/
def ascii? (name : Text) : Option (Char → Bool) :=
  (asciiClasses.find? fun (known, _) => known.toList == name).map (·.2)

end CommandLink.NamedProperty
