import CommandLink.Line.Basic
import CommandLink.Proofs.Text.Trimming
import CommandLink.Proofs.Value.Numbers

/-!
# Values on lines

The JSON text of a value as the argument of a line. It is one argument, whatever commas, quotes and
brackets it holds: a string, an array or an object is taken as a whole document, and in any other
text there is nothing to cut at (`split_compact`). Behind a name and a colon it is all that the line
says (`parse_assignment`).
-/

namespace CommandLink

/-- Neither end of a text is blank. -/
structure Text.Tight (text : Text) : Prop where
  first : ∀ c ∈ text.head?, isBlank c = false
  last : ∀ c ∈ text.getLast?, isBlank c = false

namespace Text

theorem Tight.trim_eq {text : Text} (tight : text.Tight) : trim text = text :=
  strip_eq_self tight.first tight.last

theorem tight_nil : Text.Tight [] :=
  ⟨by simp, by simp⟩

/-- A text between two characters that are not blank. -/
theorem tight_between {left right : Char} (before : isBlank left = false)
    (behind : isBlank right = false) (text : Text) : Text.Tight (left :: (text ++ [right])) where
  first c head := by
    obtain rfl : left = c := Option.some.inj head
    exact before
  last c last := by
    rw [← List.cons_append, List.getLast?_concat] at last
    obtain rfl : right = c := Option.some.inj last
    exact behind

/-- Two texts with a character between them that is not blank. -/
theorem Tight.append_cons {left right : Text} {between : Char} (tightLeft : left.Tight)
    (solid : isBlank between = false) (tightRight : right.Tight) :
    Text.Tight (left ++ between :: right) where
  first c head := by
    rw [List.head?_append, Option.mem_def, Option.or_eq_some_iff] at head
    rcases head with front | ⟨_, middle⟩
    · exact tightLeft.first c front
    · obtain rfl : between = c := Option.some.inj middle
      exact solid
  last c last := by
    rw [List.getLast?_append_cons, List.getLast?_cons, Option.mem_def, Option.some.injEq] at last
    cases behind : right.getLast? with
    | none =>
        obtain rfl : between = c := by rwa [behind] at last
        exact solid
    | some final =>
        obtain rfl : final = c := by rwa [behind] at last
        exact tightRight.last final behind

/-- A text that trimming leaves as it is has no blank end. -/
theorem tight_of_trim_eq {text : Text} (trimmed : trim text = text) : text.Tight where
  first c head := of_mem_head?_strip (by rwa [← trimmed] at head)
  last c last := of_mem_getLast?_strip (by rwa [← trimmed] at last)

end Text

namespace Arguments

/-- Whether a character is neither blank nor one that a scan of arguments looks at. -/
def inert (c : Char) : Bool :=
  !isBlank c && !Position.start.separates c && Position.start.next c == .start

theorem inert_iff {c : Char} : inert c = true ↔
    isBlank c = false ∧ Position.start.separates c = false ∧ Position.start.next c = .start := by
  simp [inert, and_assoc]

theorem inert_of_isNumeric {c : Char} (numeric : isNumeric c = true) : inert c = true := by
  rw [isNumeric, Bool.or_eq_true] at numeric
  rcases numeric with digit | sign
  · have each : ∀ code < 58, 48 ≤ code → inert (Char.ofNat code) = true := by decide
    rw [← Char.ofNat_toNat c]
    rw [Char.isDigit, Bool.and_eq_true, decide_eq_true_iff, decide_eq_true_iff, ge_iff_le,
      UInt32.le_iff_toNat_le, UInt32.le_iff_toNat_le] at digit
    exact each c.toNat (Nat.lt_succ_of_le digit.2) digit.1
  · have each : ['-', '+', '.', 'e'].all inert = true := by decide
    exact List.all_eq_true.mp each c (List.contains_iff_mem.mp sign)

theorem tight_of_inert {text : Text} (still : text.all inert = true) : text.Tight := by
  have solid : ∀ c ∈ text, isBlank c = false := fun c member =>
    (inert_iff.mp (List.all_eq_true.mp still c member)).1
  exact ⟨fun c head => solid c (List.mem_of_mem_head? head),
    fun c last => solid c (List.mem_of_getLast? last)⟩

/-- A text with nothing to cut at is one piece. -/
theorem pieces_eq_singleton {text : Text} (still : text.all inert = true) :
    pieces .start text = [text] := by
  induction text with
  | nil => rfl
  | cons c text inductionHypothesis =>
      rw [List.all_cons, Bool.and_eq_true, inert_iff] at still
      obtain ⟨⟨_, joined, stays⟩, rest⟩ := still
      simp only [pieces, joined, stays, inductionHypothesis rest]
      rfl

/-- A text with nothing to cut at is one argument. -/
theorem split_eq_singleton {text : Text} (still : text.all inert = true) :
    split text = [text] := by
  have tight := tight_of_inert still
  unfold split
  simp only [tight.trim_eq]
  split
  · rfl
  · rw [scan, pieces_eq_singleton still, List.map_singleton, tight.trim_eq]

end Arguments

namespace Value

theorem all_inert_numberText (number : Number) :
    (numberText number).all Arguments.inert = true :=
  List.all_eq_true.mpr fun c member =>
    Arguments.inert_of_isNumeric (isNumeric_of_mem_numberText number c member)

theorem tight_compact (value : Value) : (compact value).Tight := by
  cases value with
  | null => exact Arguments.tight_of_inert (by decide)
  | bool b => exact Arguments.tight_of_inert (by cases b <;> decide)
  | number n => exact Arguments.tight_of_inert (all_inert_numberText n)
  | string text => exact Text.tight_between (by decide) (by decide) _
  | array items => exact Text.tight_between (by decide) (by decide) _
  | object fields => exact Text.tight_between (by decide) (by decide) _

end Value

namespace Arguments

/-- A text that is a whole document is one argument. -/
theorem split_document {text : Text} (tight : text.Tight) (opens : opensDocument text = true)
    (reads : (Value.read? text).isSome = true) : split text = [text] := by
  simp [split, tight.trim_eq, opens, reads]

/-- The text of a value that can be read back is one argument. -/
theorem split_compact {value : Value} (reads : (Value.read? value.compact).isSome = true) :
    split value.compact = [value.compact] := by
  cases value with
  | null => exact split_eq_singleton (by decide)
  | bool b => exact split_eq_singleton (by cases b <;> decide)
  | number n => exact split_eq_singleton (Value.all_inert_numberText n)
  | string | array | object => exact split_document (Value.tight_compact _) rfl reads

end Arguments

namespace Line

/-- A text that can stand alone as a command path. -/
structure IsName (name : Text) : Prop where
  trimmed : Text.trim name = name
  filled : name ≠ []
  undotted : '.' ∉ name
  uncut : ':' ∉ name

instance (name : Text) : Decidable (IsName name) :=
  decidable_of_iff (Text.trim name = name ∧ name ≠ [] ∧ '.' ∉ name ∧ ':' ∉ name)
    ⟨fun ⟨trimmed, filled, undotted, uncut⟩ => ⟨trimmed, filled, undotted, uncut⟩,
      fun ⟨trimmed, filled, undotted, uncut⟩ => ⟨trimmed, filled, undotted, uncut⟩⟩

variable {name : Text}

theorem IsName.pathSegments (isName : IsName name) : pathSegments name = [name] := by
  have whole : name.splitOn '.' = [name] := by
    have parts : (['.'].intercalate [name]).splitOn '.' = [name] :=
      List.splitOn_intercalate '.' (by simpa using isName.undotted) (List.cons_ne_nil _ _)
    rwa [List.intercalate_singleton] at parts
  simp [Line.pathSegments, whole, isName.trimmed, isName.filled]

/-- A name alone asks for what it names. -/
theorem parse_name (isName : IsName name) : parse name = ⟨[name], none⟩ := by
  rw [parse, isName.trimmed, Text.cut_of_not_mem isName.uncut]
  simp only [isName.pathSegments, Option.map_none]

/-- A name and a value. -/
theorem parse_assignment (isName : IsName name) {value : Value}
    (reads : (Value.read? value.compact).isSome = true) :
    parse (name ++ ':' :: value.compact) = ⟨[name], some [value.compact]⟩ := by
  have solid : isBlank ':' = false := by decide
  have tight := (Text.tight_of_trim_eq isName.trimmed).append_cons solid value.tight_compact
  rw [parse, tight.trim_eq, Text.cut_append_cons isName.uncut]
  simp only [isName.pathSegments, Option.map_some, Arguments.split_compact reads]

end Line

end CommandLink
