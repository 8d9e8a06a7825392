import CommandLink.Proofs.Line.Sections
import CommandLink.Proofs.Value.Strings

/-!
# Lists of arguments

JSON texts of values and plain texts, joined with commas, are cut into the same texts again. The
JSON text of a value hides its commas from the scan, and a list of several arguments is no document,
since the scan would find a single argument then (`split_join`).
-/

namespace CommandLink

namespace Value

open Arguments

theorem isPlain_of_isNumeric {c : Char} (numeric : isNumeric c = true) : isPlain c = true :=
  isPlain_of numeric (by decide)

theorem skips_quote (depth : Nat) (text rest : Text) :
    Skips ⟨depth, .outside⟩ ⟨depth, .outside⟩ (quote text ++ rest) rest := by
  obtain ⟨pieces, _, read⟩ := exists_readString_quote text
  have behind := Document.skips_of_readString (read rest) depth
  have whole : quote text ++ rest = '"' :: (text.flatMap escape ++ '"' :: rest) := by
    simp [quote]
  rw [whole]
  exact (Skips.quote depth _).trans behind

mutual

/-- The scan passes over the JSON text of a value, whatever its shape. -/
theorem skips_compact (depth : Nat) (rest : Text) : (value : Value) →
    Skips ⟨depth, .outside⟩ ⟨depth, .outside⟩ (compact value ++ rest) rest
  | .null => .word "null" (by decide) depth rest
  | .bool b => .word (boolText b) (by cases b <;> decide) depth rest
  | .number n =>
      .append_plain (numberText n)
        (fun c member => isPlain_of_isNumeric (isNumeric_of_mem_numberText n c member)) depth rest
  | .string text => skips_quote depth text rest
  | .array items => by
      have inside := skips_compactItems depth (']' :: rest) items
      have whole := ((Skips.bracket depth _).trans inside).trans (.bracketEnd depth rest)
      simpa [compact] using whole
  | .object fields => by
      have inside := skips_compactFields depth ('}' :: rest) fields
      have whole := ((Skips.brace depth _).trans inside).trans (.braceEnd depth rest)
      simpa [compact] using whole

/-- The scan passes over items inside brackets. -/
theorem skips_compactItems (depth : Nat) (rest : Text) : (items : List Value) →
    Skips ⟨depth + 1, .outside⟩ ⟨depth + 1, .outside⟩ (compactItems items ++ rest) rest
  | [] => .refl _ rest
  | [item] => skips_compact (depth + 1) rest item
  | item :: next :: items => by
      have first := skips_compact (depth + 1) (',' :: (compactItems (next :: items) ++ rest)) item
      have others := skips_compactItems depth rest (next :: items)
      have whole := (first.trans (.comma depth _)).trans others
      simpa [compactItems] using whole

/-- The scan passes over fields inside braces. -/
theorem skips_compactFields (depth : Nat) (rest : Text) : (fields : List (Text × Value)) →
    Skips ⟨depth + 1, .outside⟩ ⟨depth + 1, .outside⟩ (compactFields fields ++ rest) rest
  | [] => .refl _ rest
  | [(name, value)] => by
      have named := skips_quote (depth + 1) name (':' :: (compact value ++ rest))
      have colon := Skips.plain (c := ':') (by decide) (depth + 1) (compact value ++ rest)
      have whole := (named.trans colon).trans (skips_compact (depth + 1) rest value)
      simpa [compactFields] using whole
  | (name, value) :: next :: fields => by
      have named := skips_quote (depth + 1) name
        (':' :: (compact value ++ ',' :: (compactFields (next :: fields) ++ rest)))
      have colon := Skips.plain (c := ':') (by decide) (depth + 1)
        (compact value ++ ',' :: (compactFields (next :: fields) ++ rest))
      have first := skips_compact (depth + 1)
        (',' :: (compactFields (next :: fields) ++ rest)) value
      have others := skips_compactFields depth rest (next :: fields)
      have whole := (((named.trans colon).trans first).trans (.comma depth _)).trans others
      simpa [compactFields] using whole

end

end Value

namespace Arguments

/-- A text that can stand in a list of arguments: the JSON text of a value, or a trimmed text without
commas, quotes, brackets and braces. -/
inductive IsArgument : Text → Prop where
  | value (value : Value) : IsArgument value.compact
  | plain {text : Text} (trimmed : Text.trim text = text) (arePlain : ∀ c ∈ text, isPlain c = true) :
      IsArgument text

variable {text : Text} {texts : List Text}

theorem IsArgument.tight (isArgument : IsArgument text) : text.Tight := by
  cases isArgument with
  | value value => exact value.tight_compact
  | plain trimmed _ => exact Text.tight_of_trim_eq trimmed

theorem IsArgument.skips (isArgument : IsArgument text) (rest : Text) :
    Skips .start .start (text ++ rest) rest := by
  cases isArgument with
  | value value => exact value.skips_compact 0 rest
  | plain _ arePlain => exact .append_plain text arePlain 0 rest

/-- No end of joined arguments is blank. -/
theorem tight_join (proper : ∀ text ∈ texts, IsArgument text) : (Text.join [','] texts).Tight :=
  Text.tight_join (by decide) fun text member => (proper text member).tight

/-- The scan is where it began behind each such text, also behind the last. -/
theorem isSection_of_isArgument (filled : texts ≠ []) (proper : ∀ text ∈ texts, IsArgument text) :
    IsSection texts := by
  induction texts with
  | nil => exact absurd rfl filled
  | cons text texts inductionHypothesis =>
      rw [List.forall_mem_cons] at proper
      have passed := proper.1.skips []
      rw [List.append_nil] at passed
      by_cases last : texts = []
      · rw [last]
        exact .last proper.1.tight passed.pieces_eq_singleton
      · exact .cons proper.1.tight passed (inductionHypothesis last proper.2)

theorem scan_join (filled : texts ≠ []) (proper : ∀ text ∈ texts, IsArgument text) :
    scan (Text.join [','] texts) = texts :=
  (isSection_of_isArgument filled proper).scan_join

end Arguments

namespace Line

/-- White space in front of a path says nothing. -/
theorem pathSegments_cons_of_isBlank {c : Char} (blank : isBlank c = true) (path : Text) :
    pathSegments (c :: path) = pathSegments path := by
  have noDot : (c == '.') = false := by
    rw [beq_eq_false_iff_ne]
    rintro rfl
    cases blank
  obtain ⟨first, rest, cut⟩ := List.exists_cons_of_ne_nil (List.splitOn_ne_nil '.' path)
  have cutLonger : (c :: path).splitOn '.' = (c :: first) :: rest := by
    rw [List.splitOn, List.splitOnP_cons_eq_if_modifyHead, noDot]
    rw [List.splitOn] at cut
    simp [cut]
  have trimmed : Text.trim (c :: first) = Text.trim first := Text.trim_cons_of_isBlank blank first
  simp only [pathSegments, cutLonger, cut, List.map_cons, trimmed]

theorem pathSegments_dropWhile_isBlank (path : Text) :
    pathSegments (path.dropWhile isBlank) = pathSegments path := by
  induction path with
  | nil => rfl
  | cons c path inductionHypothesis =>
      cases blank : isBlank c with
      | true =>
          rw [List.dropWhile_cons_of_pos blank, inductionHypothesis,
            pathSegments_cons_of_isBlank blank]
      | false => rw [List.dropWhile_cons_of_neg (by simp [blank])]

/-- Trimming takes the white space in front of a command, and none at the end of its section. -/
theorem trim_append_colon (command : Text) {behind : Text} (tight : behind.Tight) :
    Text.trim (command ++ ':' :: behind) = command.dropWhile isBlank ++ ':' :: behind := by
  have kept : behind.rdropWhile isBlank = behind :=
    List.rdropWhile_eq_self_iff.mpr fun filled => by
      simp [tight.last _ (List.getLast?_eq_some_getLast filled)]
  rw [Text.trim_append_cons (by decide), kept]

/-- A command without a colon, and behind a colon a section without blank ends. -/
theorem parse_append_colon {command behind : Text} (uncut : ':' ∉ command)
    (tight : behind.Tight) :
    parse (command ++ ':' :: behind) =
      ⟨pathSegments command, some (Arguments.split behind)⟩ := by
  have uncutFront : ':' ∉ command.dropWhile isBlank := fun member =>
    uncut ((List.dropWhile_sublist isBlank).subset member)
  rw [parse, trim_append_colon command tight, Text.cut_append_cons uncutFront]
  simp only [pathSegments_dropWhile_isBlank, Option.map_some]

end Line

namespace Arguments

variable {texts : List Text}

/-- Arguments that are JSON texts of values, or trimmed texts without commas, quotes, brackets and
braces, are joined with commas to a section that is cut into just these arguments. Behind a command
and a colon they are what the line gives for arguments. -/
theorem split_join (filled : texts ≠ []) (proper : ∀ text ∈ texts, IsArgument text) :
    split (Text.join [','] texts) = texts ∧
      ∀ command : Text, ':' ∉ command →
        Line.parse (command ++ ':' :: Text.join [','] texts) =
          ⟨Line.pathSegments command, some texts⟩ := by
  have whole : split (Text.join [','] texts) = texts := by
    have scanned := scan_join filled proper
    unfold split
    dsimp only
    split
    case isFalse => exact scanned
    case isTrue isDocument =>
      rw [Bool.and_eq_true, Value.read?] at isDocument
      have read : (Document.read? (Text.trim (Text.join [','] texts))).isSome :=
        Option.isSome_of_isSome_bind isDocument.2
      rw [← scan_of_read? read, scanned]
  refine ⟨whole, ?_⟩
  intro command uncut
  rw [Line.parse_append_colon uncut (tight_join proper), whole]

/-- The settings of an exposure, as a value with commas, quotes and brackets in it. -/
def exposure : Value :=
  .object [("iso", .array [.ofInt 100, .string "],\""])]

/-- Such a value, a plain text, nothing, and a string with a comma, a quote and a brace. -/
theorem split_join_exposure :
    let texts : List Text := [exposure.compact, "1/60 s", [], (Value.string ",\"\x7b").compact]
    (∀ text ∈ texts, IsArgument text) ∧
      Text.join [','] texts =
        "\x7b\"iso\":[100,\"],\\\"\"]\x7d,1/60 s,,\",\\\"\x7b\"".toList ∧
      split (Text.join [','] texts) = texts ∧
      (Line.parse (" Set.Exposure" ++ ':' :: Text.join [','] texts)).arguments? = some texts := by
  intro texts
  have proper : ∀ text ∈ texts, IsArgument text := by
    intro text member
    simp only [texts, List.mem_cons, List.not_mem_nil, or_false] at member
    rcases member with rfl | rfl | rfl | rfl
    · exact .value exposure
    · exact .plain (by decide) (List.all_eq_true.mp (by decide))
    · exact .plain (by decide) (List.all_eq_true.mp (by decide))
    · exact .value (.string ",\"\x7b")
  have filled : texts ≠ [] := List.cons_ne_nil _ _
  obtain ⟨whole, behindCommand⟩ := split_join filled proper
  refine ⟨proper, by decide, whole, ?_⟩
  rw [behindCommand " Set.Exposure".toList (by decide)]

end Arguments

end CommandLink
