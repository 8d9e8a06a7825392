import CommandLink.Proofs.Alias.Precedence
import CommandLink.Proofs.Line.Blanks

/-!
# What a line with an alias is read as

A line is trimmed before an alias is looked for at its front, and the rest behind the alias is trimmed
before it is put behind the internal command. Neither shows in what the new line is read as: it is the
command with all that follows the alias as its section. With a single alias this says of each line what
becomes of it (`AliasEvent.parse_expand?_single`).
-/

namespace CommandLink

namespace AliasRecord

variable {text head : Text} {separator : Char}

/-- A line that goes on behind an alias uses it also when it is trimmed. A blank separator may be
trimmed away with all behind it, and then the line is the alias. -/
theorem uses_trim (tight : text.Tight) (filled : text ≠ [])
    (named : Text.sameName head text = true) (separates : separator = ':' ∨ isBlank separator = true)
    (rest : Text) : Uses text (Text.trim (head ++ separator :: rest)) (Text.trim rest) := by
  have headFilled : head ≠ [] := by
    rintro rfl
    exact filled (List.eq_nil_of_length_eq_zero (Text.length_eq_of_sameName named).symm)
  rw [(tight.of_sameName named).trim_append headFilled]
  have whole : (separator :: rest).rdropWhile isBlank ++ (separator :: rest).rtakeWhile isBlank =
      separator :: rest :=
    List.rdropWhile_append_rtakeWhile
  have ending : ∀ c ∈ (separator :: rest).rtakeWhile isBlank, isBlank c = true := fun c member =>
    List.mem_rtakeWhile_imp member
  generalize (separator :: rest).rdropWhile isBlank = kept at whole ⊢
  generalize (separator :: rest).rtakeWhile isBlank = gone at whole ending
  cases kept with
  | nil =>
      obtain rfl : gone = separator :: rest := whole
      rw [List.append_nil]
      exact .inl ⟨named, Text.trim_append_right [] (List.forall_mem_cons.mp ending).2⟩
  | cons first kept =>
      rw [List.cons_append] at whole
      obtain ⟨rfl, rfl⟩ := List.cons.inj whole
      rw [Text.trim_append_right kept ending]
      exact .inr (.intro kept named separates)

/-- What follows an alias is read alike whether it is trimmed first or not. -/
theorem parse_withParameters (record : AliasRecord) (uncut : ':' ∉ record.internal) (rest : Text) :
    Line.parse (record.withParameters (Text.trim rest)) =
      Line.parse (if Text.trim rest = [] then record.internal else record.internal ++ ':' :: rest) := by
  by_cases blank : Text.trim rest = []
  · rw [if_pos blank, blank]
    rfl
  · have given : (Text.trim rest).isEmpty = false := by simpa using blank
    rw [if_neg blank, withParameters, given, if_neg Bool.false_ne_true, Line.parse_colon uncut,
      Line.parse_colon uncut, Arguments.scan_trim]

end AliasRecord

namespace AliasTable

variable {internal text : Text}

/-- With one input alias and no reply, that alias is all that a line is tried against. -/
theorem expand?_single (line : Text) :
    expand? [{ internal, inputs := [text] }] line =
      lineOf? (Text.trim line) ({ internal, inputs := [text] }, text) := by
  have trimmed (table : AliasTable) : table.expand? line = table.expand? (Text.trim line) := by
    simp only [expand?, Text.trim_trim]
  rw [trimmed, expand?_eq_findSome? (Text.trim_trim line) rfl]
  simp [inputs, List.findSome?_singleton]

end AliasTable

namespace AliasEvent

open AliasTable (expand?_single lineOf?_of_uses lineOf?_eq_none)

variable {τ : Type}

/-- Whatever has happened to the alias administration: if it knows one input alias and no reply, then
a line that begins with the alias, in any letter case, and goes on behind a separator is read as the
command with the rest as its section, or as the command alone if the rest is blank. A line that neither
is the alias nor begins so is left alone. -/
theorem parse_expand?_single (store : SettingsStore τ) (events : List (AliasEvent τ)) (settings : τ)
    {internal text : Text} (uncut : ':' ∉ internal)
    (single : (performAll store events { settings }).table = [{ internal, inputs := [text] }]) :
    (∀ head separator rest, Text.sameName head text = true →
      separator = ':' ∨ isBlank separator = true →
      ∃ line, (performAll store events { settings }).table.expand? (head ++ separator :: rest) =
          some line ∧
        Line.parse line =
          Line.parse (if Text.trim rest = [] then internal else internal ++ ':' :: rest)) ∧
      ∀ line, Text.trim line = line → Text.sameName line text = false →
        (∀ head separator rest, Text.sameName head text = true →
          separator = ':' ∨ isBlank separator = true → line ≠ head ++ separator :: rest) →
        (performAll store events { settings }).table.expand? line = none := by
  have formed : (performAll store events { settings }).table.WellFormed :=
    wellFormed_performAll_of_wellFormed events AliasTable.wellFormed_nil
  rw [single] at formed ⊢
  obtain ⟨filled, trimmed⟩ :=
    (formed.records _ List.mem_cons_self).tidy .input text List.mem_cons_self
  constructor
  · intro head separator rest named separates
    have uses := AliasRecord.uses_trim (Text.tight_of_trim_eq trimmed) filled named separates rest
    rw [expand?_single, lineOf?_of_uses uses]
    exact ⟨_, rfl, AliasRecord.parse_withParameters { internal, inputs := [text] } uncut rest⟩
  · intro line trimmedLine other apart
    have unused (parameters : Text) : ¬ AliasRecord.Uses text line parameters := by
      rintro (⟨named, _⟩ | ⟨rest, named, separates⟩)
      · rw [other] at named
        cases named
      · exact apart _ _ rest named separates rfl
    rw [expand?_single, trimmedLine, lineOf?_eq_none unused]

/-- A wide blank separates as well as a colon does, and a line that goes on with a letter does not use
the alias. -/
theorem parse_expand?_single_levels :
    let table := (performAll .memory (levels.take 1) { settings := [] }).table
    table = [{ internal := "SetLevel", inputs := ["lvl"] }] ∧
      (∃ line, table.expand? "LVL\u3000 \"a, b\", 2 " = some line ∧
        Line.parse line = Line.parse "SetLevel: \"a, b\", 2 ") ∧
      (∃ line, table.expand? "lvl \t" = some line ∧ Line.parse line = Line.parse "SetLevel") ∧
      table.expand? "lvl2:5" = none := by
  intro table
  have single : table = [{ internal := "SetLevel", inputs := ["lvl"] }] := rfl
  obtain ⟨translated, untouched⟩ :=
    parse_expand?_single .memory (levels.take 1) [] (by decide) single
  refine ⟨single, translated "LVL" '\u3000' " \"a, b\", 2 " (by decide) (by decide),
    translated "lvl" ' ' "\t" (by decide) (by decide), untouched "lvl2:5" (by decide) (by decide) ?_⟩
  intro head separator rest named separates whole
  have length : head.length = 3 := Text.length_eq_of_sameName named
  have third : ("lvl2:5" : Text)[head.length]? = some separator := by
    rw [whole, List.getElem?_append_right le_rfl, Nat.sub_self, List.getElem?_cons_zero]
  rw [length] at third
  obtain rfl : '2' = separator := Option.some.inj third
  exact absurd separates (by decide)

end AliasEvent

end CommandLink
