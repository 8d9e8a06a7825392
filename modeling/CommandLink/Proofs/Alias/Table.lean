import CommandLink.Alias.Table
import Mathlib.Data.List.Nodup

/-!
# What an alias table holds

The aliases that each command has, and what the operations on a table do to them. What a table holds
does not tell the order of its records, but as long as no command has two of them it tells
everything else.
-/

namespace CommandLink

theorem Text.sameName_iff {left right : Text} :
    Text.sameName left right = true ↔ Text.foldCase left = Text.foldCase right := by
  simp [Text.sameName]

theorem Text.sameName_symm {left right : Text} (same : Text.sameName left right = true) :
    Text.sameName right left = true :=
  Text.sameName_iff.mpr (Text.sameName_iff.mp same).symm

namespace AliasRecord

variable {record : AliasRecord} {kind other : AliasKind} {text held : Text}

theorem texts_setTexts (texts : List Text) :
    (record.setTexts kind texts).texts other =
      if other = kind then texts else record.texts other := by
  cases kind <;> cases other <;> rfl

@[simp] theorem internal_setTexts (texts : List Text) :
    (record.setTexts kind texts).internal = record.internal := by
  cases kind <;> rfl

theorem has_iff : record.has kind text = true ↔
    ∃ held ∈ record.texts kind, Text.sameName held text = true := by
  simp [has]

@[simp] theorem internal_add : (record.add kind text).internal = record.internal := by
  unfold add
  split <;> simp

theorem mem_texts_add :
    held ∈ (record.add kind text).texts other ↔ held ∈ record.texts other ∨
      record.has kind text = false ∧ other = kind ∧ held = text := by
  unfold add
  split
  case isTrue known => simp [known]
  case isFalse new =>
    by_cases same : other = kind
    · simp [texts_setTexts, same, new]
    · simp [texts_setTexts, same]

@[simp] theorem internal_remove : (record.remove kind text).internal = record.internal :=
  internal_setTexts _

theorem mem_texts_remove :
    held ∈ (record.remove kind text).texts other ↔ held ∈ record.texts other ∧
      ¬(other = kind ∧ Text.sameName held text = true) := by
  unfold remove
  by_cases same : other = kind
  · simp [texts_setTexts, same]
  · simp [texts_setTexts, same]

theorem texts_of_isEmpty (empty : record.isEmpty = true) : record.texts kind = [] := by
  simp only [isEmpty, Bool.and_eq_true, List.isEmpty_iff] at empty
  cases kind
  · exact empty.1
  · exact empty.2

end AliasRecord

namespace AliasTable

/-- The aliases of one sort that a command has. -/
def texts (table : AliasTable) (kind : AliasKind) (internal : Text) : List Text :=
  ((table.record? internal).map (·.texts kind)).getD []

/-- No command has two records. -/
def IsDistinct (table : AliasTable) : Prop :=
  (table.map (·.internal)).Nodup

variable {table : AliasTable} {kind sort : AliasKind} {internal command text held : Text}

@[simp] theorem texts_nil : texts [] kind internal = [] :=
  rfl

theorem texts_cons (record : AliasRecord) :
    texts (record :: table) kind internal =
      if record.internal = internal then record.texts kind else table.texts kind internal := by
  by_cases same : record.internal = internal <;> simp [texts, record?, same]

theorem has_cons (record : AliasRecord) :
    has (record :: table) kind internal text =
      if record.internal = internal then record.has kind text
      else table.has kind internal text := by
  by_cases same : record.internal = internal <;> simp [has, record?, same]

/-- A command without a record has no aliases. -/
theorem texts_eq_nil (absent : internal ∉ table.map (·.internal)) :
    table.texts kind internal = [] := by
  induction table with
  | nil => rfl
  | cons record table inductionHypothesis =>
      rw [List.map_cons, List.mem_cons, not_or] at absent
      rw [texts_cons, if_neg (Ne.symm absent.1), inductionHypothesis absent.2]

theorem has_iff : table.has kind internal text = true ↔
    ∃ held ∈ table.texts kind internal, Text.sameName held text = true := by
  unfold has texts
  cases table.record? internal with
  | none => simp
  | some record => simp [AliasRecord.has_iff]

/-- Where every command has one record, the table holds what the records do. -/
theorem mem_texts_iff (distinct : table.IsDistinct) :
    held ∈ table.texts kind internal ↔
      ∃ record ∈ table, record.internal = internal ∧ held ∈ record.texts kind := by
  induction table with
  | nil => simp
  | cons record table inductionHypothesis =>
      obtain ⟨absent, distinctRest⟩ := List.nodup_cons.mp distinct
      rw [List.exists_mem_cons_iff, texts_cons, ← inductionHypothesis distinctRest]
      by_cases same : record.internal = internal
      · subst same
        simp [texts_eq_nil absent]
      · simp [same]

/-- What a table holds after an alias was added. -/
theorem mem_texts_add :
    held ∈ (table.add kind internal text).texts sort command ↔ held ∈ table.texts sort command ∨
      table.has kind internal text = false ∧ command = internal ∧ sort = kind ∧ held = text := by
  induction table with
  | nil =>
      have bare : AliasRecord.texts { internal } sort = [] := by cases sort <;> rfl
      have absent : AliasRecord.has { internal } kind text = false := by cases kind <;> rfl
      by_cases same : command = internal
      · simp [add, texts_cons, same, AliasRecord.mem_texts_add, has, record?, bare, absent]
      · simp [add, texts_cons, same, Ne.symm same]
  | cons record table inductionHypothesis =>
      unfold add
      rw [has_cons, texts_cons]
      by_cases here : record.internal = internal
      · by_cases same : command = internal
        · simp [here, same, texts_cons, AliasRecord.mem_texts_add]
        · simp [here, same, Ne.symm same, texts_cons]
      · by_cases same : record.internal = command
        · have other : command ≠ internal := same ▸ here
          simp [same, other, texts_cons]
        · simp [here, same, texts_cons, inductionHypothesis]

theorem mem_internals_add :
    command ∈ (table.add kind internal text).map (·.internal) ↔
      command = internal ∨ command ∈ table.map (·.internal) := by
  induction table with
  | nil => simp [add]
  | cons record table inductionHypothesis =>
      unfold add
      split
      case isTrue here => simp [here]
      case isFalse =>
        rw [List.map_cons, List.mem_cons, inductionHypothesis, List.map_cons, List.mem_cons,
          or_left_comm]

theorem IsDistinct.add (distinct : table.IsDistinct) :
    (table.add kind internal text).IsDistinct := by
  induction table with
  | nil => simp [IsDistinct, AliasTable.add]
  | cons record table inductionHypothesis =>
      obtain ⟨absent, distinctRest⟩ := List.nodup_cons.mp distinct
      unfold AliasTable.add
      split
      case isTrue here => simpa [IsDistinct] using distinct
      case isFalse elsewhere =>
        refine List.nodup_cons.mpr ⟨?_, inductionHypothesis distinctRest⟩
        rw [mem_internals_add, not_or]
        exact ⟨elsewhere, absent⟩

/-- What a table holds after an alias was removed. -/
theorem mem_texts_forget (distinct : table.IsDistinct) :
    held ∈ (table.forget kind internal text).texts sort command ↔
      held ∈ table.texts sort command ∧
        ¬(command = internal ∧ sort = kind ∧ Text.sameName held text = true) := by
  induction table with
  | nil => simp [forget]
  | cons record table inductionHypothesis =>
      obtain ⟨absent, distinctRest⟩ := List.nodup_cons.mp distinct
      unfold forget
      rw [texts_cons]
      by_cases here : record.internal = internal
      · subst here
        by_cases same : command = record.internal
        · subst same
          have left : held ∈ record.texts sort ∧ ¬(sort = kind ∧ Text.sameName held text = true) ↔
              held ∈ (record.remove kind text).texts sort := AliasRecord.mem_texts_remove.symm
          simp only [if_true, true_and, left]
          split
          case isTrue empty =>
            rw [AliasRecord.texts_of_isEmpty empty, texts_eq_nil absent]
          case isFalse => simp [texts_cons]
        · simp only [if_true, Ne.symm same, same, if_false, false_and, not_false_iff, and_true]
          split
          · rfl
          · simp [texts_cons, Ne.symm same]
      · by_cases same : record.internal = command
        · have other : command ≠ internal := same ▸ here
          simp [same, other, texts_cons]
        · simp [here, same, texts_cons, inductionHypothesis distinctRest]

theorem forget_sublist_internals :
    (table.forget kind internal text).map (·.internal) |>.Sublist (table.map (·.internal)) := by
  induction table with
  | nil => exact List.Sublist.slnil
  | cons record table inductionHypothesis =>
      unfold forget
      split
      · split
        · exact List.sublist_cons_self _ _
        · simp
      · exact inductionHypothesis.cons_cons _

theorem IsDistinct.forget (distinct : table.IsDistinct) :
    (table.forget kind internal text).IsDistinct :=
  distinct.sublist forget_sublist_internals

/-- What a table holds after a command was cleared. -/
theorem mem_texts_clear :
    held ∈ (table.clear internal).texts sort command ↔
      held ∈ table.texts sort command ∧ command ≠ internal := by
  induction table with
  | nil => simp [clear]
  | cons record table inductionHypothesis =>
      rw [clear, List.filter_cons, texts_cons]
      by_cases here : record.internal = internal
      · rw [if_neg (by simpa using here), ← clear, inductionHypothesis]
        by_cases same : command = internal
        · simp [same]
        · rw [if_neg (fun equal => same (equal.symm.trans here))]
      · rw [if_pos (by simpa using here), texts_cons, ← clear]
        by_cases same : record.internal = command
        · simp [same, same ▸ here]
        · simp only [same, if_false, inductionHypothesis]

theorem IsDistinct.clear (distinct : table.IsDistinct) : (table.clear internal).IsDistinct :=
  distinct.sublist (List.filter_sublist.map _)

/-- A command has a rival for an input alias exactly if another command has that alias. -/
theorem rival?_eq_none_iff (distinct : table.IsDistinct) :
    table.rival? internal text = none ↔
      ∀ other, other ≠ internal → ∀ held ∈ table.texts .input other,
        ¬Text.sameName held text = true := by
  simp only [rival?, List.find?_eq_none, Bool.and_eq_true, bne_iff_ne, AliasRecord.has_iff,
    mem_texts_iff distinct]
  constructor
  · rintro free other differs held ⟨record, member, rfl, inside⟩ same
    exact free record member ⟨differs, held, inside, same⟩
  · rintro free record member ⟨differs, held, inside, same⟩
    exact free record.internal differs held ⟨record, member, rfl, inside⟩ same

/-- No input alias is held for two commands, in whatever letter case. -/
def IsExclusive (table : AliasTable) : Prop :=
  ∀ ⦃internal command text other⦄, text ∈ table.texts .input internal →
    other ∈ table.texts .input command → Text.sameName text other = true → internal = command

theorem IsExclusive.add (exclusive : table.IsExclusive) (distinct : table.IsDistinct)
    (free : kind = .input → table.rival? internal text = none) :
    (table.add kind internal text).IsExclusive := by
  intro command other left right inside insideOther same
  rcases mem_texts_add.mp inside with old | ⟨_, rfl, rfl, rfl⟩ <;>
    rcases mem_texts_add.mp insideOther with oldOther | ⟨_, rfl, kinds, rfl⟩
  · exact exclusive old oldOther same
  · by_contra differs
    exact (rival?_eq_none_iff distinct).mp (free kinds.symm) _ differs _ old same
  · by_contra differs
    exact (rival?_eq_none_iff distinct).mp (free rfl) _ (Ne.symm differs) _ oldOther
      (Text.sameName_symm same)
  · rfl

end AliasTable

end CommandLink
