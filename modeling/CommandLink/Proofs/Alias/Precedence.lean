import CommandLink.Proofs.Alias.WellFormed

/-!
# Which command an alias leads to

A line that is an input alias need not lead to the command that the alias belongs to. Replies are
looked at before input aliases, and an input alias takes every line that it stands at the front of;
neither is looked at when an alias is added. `AliasTable.Hidden` says when one of them is in the way,
and that this is all there can be is `expand?_alias_iff_not_hidden`.
-/

namespace CommandLink

theorem Text.length_eq_of_sameName {left right : Text} (same : Text.sameName left right = true) :
    left.length = right.length := by
  simpa [foldCase] using congrArg List.length (Text.sameName_iff.mp same)

namespace AliasRecord

/-- An alias stands at the front of a line, in any letter case, with a separator behind it: a colon
or a blank. The rest of the line are the parameters. -/
inductive Fronts (text : Text) : Text → Text → Prop where
  | intro {head : Text} {separator : Char} (rest : Text)
      (named : Text.sameName head text = true)
      (separates : separator = ':' ∨ isBlank separator = true) :
      Fronts text (head ++ separator :: rest) (Text.trim rest)

/-- A line is taken to use an alias, with these parameters: it is the alias, or goes on with them. -/
def Uses (text line parameters : Text) : Prop :=
  Text.sameName line text = true ∧ parameters = [] ∨ Fronts text line parameters

variable {record : AliasRecord} {text line parameters : Text}

theorem afterAlias?_append {head : Text} (named : Text.sameName head text = true) (rest : Text) :
    afterAlias? text (head ++ rest) = some rest := by
  have length := Text.length_eq_of_sameName named
  rw [afterAlias?, ← length, List.take_left, List.drop_left, if_pos named]

theorem uses_iff :
    (afterAlias? text line).bind parameters? = some parameters ↔ Uses text line parameters := by
  constructor
  · intro used
    obtain ⟨rest, after, read⟩ := Option.bind_eq_some_iff.mp used
    unfold afterAlias? at after
    split at after
    case isFalse => cases after
    case isTrue named =>
      have whole : line.take text.length ++ rest = line := by
        rw [← Option.some.inj after, List.take_append_drop]
      cases rest with
      | nil =>
          rw [List.append_nil] at whole
          rw [whole] at named
          cases read
          exact .inl ⟨named, rfl⟩
      | cons separator rest =>
          simp only [parameters?] at read
          split at read
          case isFalse => cases read
          case isTrue separates =>
            cases read
            rw [← whole]
            exact .inr (.intro rest named (by simpa using separates))
  · rintro (⟨named, rfl⟩ | ⟨rest, named, separates⟩)
    · have after := afterAlias?_append named []
      rw [List.append_nil] at after
      simp [after, parameters?]
    · rw [afterAlias?_append named, Option.bind_some, parameters?, if_pos (by simpa using separates)]

end AliasRecord

namespace AliasTable

open AliasRecord (Fronts Uses uses_iff)

/-- All input aliases, each with its record, in the order in which they are tried. -/
def inputs (table : AliasTable) : List (AliasRecord × Text) :=
  table.flatMap fun record => record.inputs.map (record, ·)

/-- An input alias is the first that a line uses, with these parameters. -/
inductive FirstUsed (table : AliasTable) (line : Text) : AliasRecord → Text → Text → Prop where
  | intro {owner : AliasRecord} {text parameters : Text} (earlier later : List (AliasRecord × Text))
      (order : table.inputs = earlier ++ (owner, text) :: later)
      (unused : ∀ entry ∈ earlier, ∀ parameters, ¬ Uses entry.2 line parameters)
      (uses : Uses text line parameters) : FirstUsed table line owner text parameters

variable {table : AliasTable} {record : AliasRecord} {text line command : Text}

theorem mem_inputs_iff : (record, text) ∈ table.inputs ↔ record ∈ table ∧ text ∈ record.inputs := by
  simp [inputs]

/-- A reply stands for the whole line. -/
theorem expand?_of_reply {owner : AliasRecord} (trimmed : Text.trim line = line)
    (first : table.find? (·.has .reply line) = some owner) :
    table.expand? line = some owner.internal := by
  simp only [expand?, trimmed, first]

/-- What an input alias makes of a line. -/
def lineOf? (line : Text) (entry : AliasRecord × Text) : Option Text :=
  ((AliasRecord.afterAlias? entry.2 line).bind AliasRecord.parameters?).map
    entry.1.withParameters

theorem lineOf?_of_uses {entry : AliasRecord × Text} {parameters : Text}
    (uses : Uses entry.2 line parameters) :
    lineOf? line entry = some (entry.1.withParameters parameters) := by
  rw [lineOf?, uses_iff.mpr uses, Option.map_some]

theorem lineOf?_eq_none {entry : AliasRecord × Text}
    (unused : ∀ parameters, ¬ Uses entry.2 line parameters) : lineOf? line entry = none := by
  rw [lineOf?, Option.map_eq_none_iff, Option.eq_none_iff_forall_ne_some]
  exact fun parameters used => unused parameters (uses_iff.mp used)

/-- For a line that is no reply the input aliases are tried in order. -/
theorem expand?_eq_findSome? (trimmed : Text.trim line = line)
    (free : table.find? (·.has .reply line) = none) :
    table.expand? line = table.inputs.findSome? (lineOf? line) := by
  simp only [expand?, trimmed, free]
  clear free
  induction table with
  | nil => rfl
  | cons record table inductionHypothesis =>
      have own : record.expand? line = (record.inputs.map (record, ·)).findSome? (lineOf? line) := by
        rw [List.findSome?_map]
        rfl
      simp only [inputs] at inductionHypothesis ⊢
      rw [List.flatMap_cons, List.findSome?_append, ← own, ← inductionHypothesis,
        List.findSome?_cons]
      cases record.expand? line <;> rfl

/-- A line that is no reply is expanded by the first input alias that it uses. -/
theorem expand?_eq_some_iff (trimmed : Text.trim line = line)
    (free : table.find? (·.has .reply line) = none) :
    table.expand? line = some command ↔ ∃ owner text parameters,
      table.FirstUsed line owner text parameters ∧ owner.withParameters parameters = command := by
  rw [expand?_eq_findSome? trimmed free, List.findSome?_eq_some_iff]
  constructor
  · rintro ⟨earlier, ⟨owner, text⟩, later, order, taken, passed⟩
    obtain ⟨parameters, used, rfl⟩ := Option.map_eq_some_iff.mp taken
    refine ⟨owner, text, parameters, .intro earlier later order ?_ (uses_iff.mp used), rfl⟩
    intro entry member parameters uses
    have nothing := passed entry member
    rw [lineOf?_of_uses uses] at nothing
    cases nothing
  · rintro ⟨owner, text, parameters, ⟨earlier, later, order, unused, uses⟩, rfl⟩
    exact ⟨earlier, (owner, text), later, order, lineOf?_of_uses uses,
      fun entry member => lineOf?_eq_none (unused entry member)⟩

/-- A line that is an input alias is expanded. -/
theorem exists_expand?_eq_some (trimmed : Text.trim text = text)
    (free : table.find? (·.has .reply text) = none) (member : record ∈ table)
    (held : text ∈ record.inputs) : ∃ command, table.expand? text = some command := by
  rw [expand?_eq_findSome? trimmed free, ← Option.isSome_iff_exists, List.findSome?_isSome_iff]
  refine ⟨(record, text), mem_inputs_iff.mpr ⟨member, held⟩, ?_⟩
  have uses : Uses text text [] := .inl ⟨by simp [Text.sameName], rfl⟩
  rw [lineOf?_of_uses uses]
  rfl

/-- Something is in the way of an input alias of a command, so that it does not lead there. -/
inductive Hidden (table : AliasTable) (record : AliasRecord) (text : Text) : Prop where
  /-- It is a reply as well, and the first command with that reply is another one. -/
  | byReply {owner : AliasRecord} (first : table.find? (·.has .reply text) = some owner)
      (other : owner.internal ≠ record.internal) : Hidden table record text
  /-- It is no reply, but the first input alias that it uses only stands at its front, and gives
  another line. -/
  | byFront {owner : AliasRecord} {front parameters : Text}
      (free : table.find? (·.has .reply text) = none)
      (first : table.FirstUsed text owner front parameters) (fronts : Fronts front text parameters)
      (other : owner.withParameters parameters ≠ record.internal) : Hidden table record text

/-- In a well-formed table an input alias leads to its command exactly if nothing is in its way. -/
theorem WellFormed.expand?_eq_internal_iff (formed : table.WellFormed) (member : record ∈ table)
    (held : text ∈ record.inputs) :
    table.expand? text = some record.internal ↔ ¬ table.Hidden record text := by
  have trimmed : Text.trim text = text := ((formed.records record member).tidy .input text held).2
  cases reply : table.find? (·.has .reply text) with
  | some owner =>
      rw [expand?_of_reply trimmed reply, Option.some.injEq]
      constructor
      · rintro same (⟨first, other⟩ | ⟨free, _, _, _⟩)
        · obtain rfl := Option.some.inj (reply.symm.trans first)
          exact other same
        · cases reply.symm.trans free
      · intro shown
        by_contra other
        exact shown (.byReply reply other)
  | none =>
      constructor
      · rintro leads (⟨first, _⟩ | ⟨free, used, _, other⟩)
        · cases reply.symm.trans first
        · have line := (expand?_eq_some_iff trimmed free).mpr ⟨_, _, _, used, rfl⟩
          exact other (Option.some.inj (line.symm.trans leads))
      · intro shown
        obtain ⟨command, expanded⟩ := exists_expand?_eq_some trimmed reply member held
        obtain ⟨owner, front, parameters, used, rfl⟩ :=
          (expand?_eq_some_iff trimmed reply).mp expanded
        rw [expanded, Option.some.injEq]
        have whole := used
        obtain ⟨earlier, later, order, _, named | fronts⟩ := used
        · -- No other input alias equals this one in any letter case.
          obtain ⟨named, rfl⟩ := named
          have among : (owner, front) ∈ table.inputs := by simp [order]
          obtain ⟨known, inside⟩ := mem_inputs_iff.mp among
          rw [formed.exclusive record member owner known text held front inside named]
          rfl
        · by_contra other
          exact shown (.byFront reply whole fronts other)

end AliasTable

namespace AliasEvent

variable {τ : Type}

/-- Whatever has happened to the alias administration: an input alias leads to the command that it
was added for exactly if neither a reply nor another input alias is in its way. -/
theorem expand?_alias_iff_not_hidden (store : SettingsStore τ) (events : List (AliasEvent τ))
    (settings : τ) {record : AliasRecord} {text : Text}
    (member : record ∈ (performAll store events { settings }).table)
    (held : text ∈ record.inputs) :
    (performAll store events { settings }).table.expand? text = some record.internal ↔
      ¬ (performAll store events { settings }).table.Hidden record text :=
  (wellFormed_performAll_of_wellFormed events AliasTable.wellFormed_nil).expand?_eq_internal_iff
    member held

/-- Two commands are given input aliases, the second of which begins with the first and a blank. -/
def levels : List (AliasEvent SettingsTree) :=
  [.request (fun _ => true) (.add .input "SetLevel" "lvl"),
    .request (fun _ => true) (.add .input "Snap" "Lvl max")]

/-- The shorter alias leads to its command. The longer one is hidden by it. -/
theorem expand?_alias_iff_not_hidden_levels :
    let table := (performAll .memory levels { settings := [] }).table
    let level : AliasRecord := { internal := "SetLevel", inputs := ["lvl"] }
    let snap : AliasRecord := { internal := "Snap", inputs := ["Lvl max"] }
    table = [level, snap] ∧ table.expand? "lvl" = some "SetLevel" ∧
      ¬ table.Hidden level "lvl" ∧ table.Hidden snap "Lvl max" ∧
      table.expand? "Lvl max" = some "SetLevel:max" := by
  intro table level snap
  have whole : table = [level, snap] := rfl
  have shown : table.expand? "lvl" = some level.internal ↔ ¬ table.Hidden level "lvl" :=
    expand?_alias_iff_not_hidden .memory levels [] List.mem_cons_self List.mem_cons_self
  have longer : table.expand? "Lvl max" = some snap.internal ↔ ¬ table.Hidden snap "Lvl max" :=
    expand?_alias_iff_not_hidden .memory levels [] (List.mem_cons_of_mem _ List.mem_cons_self)
      List.mem_cons_self
  refine ⟨whole, rfl, shown.mp rfl, ?_, rfl⟩
  by_contra free
  exact absurd (longer.mpr free) (by decide)

end AliasEvent

namespace AliasRequest

/-- A command is given a reply, and another one the same text as an input alias. Both are accepted,
but the input alias leads to the command with the reply. -/
theorem exists_accepted_not_leading :
    ∃ last, performAll? (fun _ => true) [.add .reply "Snap" "go", .add .input "StartRecording" "go"]
        { settings := [] } = some last ∧
      ∃ record ∈ last.table, (("go" : Text) ∈ record.inputs) ∧
        record.internal = ("StartRecording" : Text) ∧
        last.table.expand? "go" = some ("Snap" : Text) := by
  refine ⟨_, rfl, { internal := "StartRecording", inputs := ["go"] }, ?_, ?_, rfl, rfl⟩
  · exact List.mem_cons_of_mem _ List.mem_cons_self
  · exact List.mem_cons_self

end AliasRequest

end CommandLink
