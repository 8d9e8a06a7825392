import CommandLink.Proofs.Alias.Mirror

/-!
# Restoring aliases

From settings that mirror a table, the table is restored. Every stored alias is accepted again, in
whatever order they come, because the table that they were taken from is sound
(`exists_restore_eq_ok`).
-/

namespace CommandLink

open SettingsPath

namespace AliasDesk

variable {directory : Directory} {table grown : AliasTable} {tree : SettingsTree}
  {kind : AliasKind} {internal text : Text}

theorem areSegments_kind (command : IsSegment internal) (kind : AliasKind) :
    AreSegments [root, internal, segment kind] := by
  refine ⟨by simp, ?_⟩
  simp only [List.forall_mem_cons, List.not_mem_nil, false_implies, implies_true, and_true]
  exact ⟨isSegment_root, command, isSegment_segment kind⟩

/-- The stored aliases of one sort of a command are listed by name. -/
theorem Mirrors.entryText_eq (mirrors : Mirrors tree table) (sound : table.Sound directory)
    (command : IsSegment internal) {entry : SettingEntry}
    (member : entry ∈ tree.children (ofSegments [root, internal, segment kind])) :
    entryText entry = entry.name ∧ entry.name ∈ table.texts kind internal := by
  have proper : AreSegments [root, internal, segment kind] := areSegments_kind command kind
  obtain ⟨more, value, properKeys, stored, listed⟩ :=
    SettingsTree.value_of_mem_children (mirrors.isProper sound) proper member
  obtain ⟨sort, other, inside, same⟩ := mirrors.names_eq sound properKeys stored
  simp only [names, List.cons_append, List.nil_append, List.cons.injEq, true_and] at same
  obtain ⟨rfl, kinds, name, rfl⟩ := same
  obtain rfl := segment_injective kinds
  rw [if_pos rfl] at listed
  have filled : value ≠ [] := (sound.accepted inside).segment.filled
  refine ⟨?_, name ▸ inside⟩
  simp [entryText, listed, filled, name]

/-- What a table holds when aliases of another table are restored, namely those that are `due`. -/
structure Restored (table grown : AliasTable) (due : AliasKind → Text → Text → Prop) : Prop where
  distinct : grown.IsDistinct
  mem_iff : ∀ {kind internal text}, text ∈ grown.texts kind internal ↔
    text ∈ table.texts kind internal ∧ due kind internal text

variable {due : AliasKind → Text → Text → Prop}

/-- An alias of a sound table is accepted again. -/
theorem Restored.insert (sound : table.Sound directory) (restored : Restored table grown due)
    (inside : text ∈ table.texts kind internal) :
    ∃ isNew next, AliasDesk.insert directory kind internal text grown = .ok (isNew, next) ∧
      Restored table next fun sort command held =>
        due sort command held ∨ sort = kind ∧ command = internal ∧ held = text := by
  have accepted := sound.accepted inside
  have filled := accepted.segment.filled
  have free : (if kind = .input then grown.rival? internal text else none) = none := by
    split
    case isTrue input =>
      subst input
      rw [AliasTable.rival?_eq_none_iff restored.distinct]
      intro other differs held member same
      exact differs (sound.owned (restored.mem_iff.mp member).1 inside same)
    case isFalse => rfl
  refine ⟨!grown.has kind internal text, grown.add kind internal text, ?_,
    restored.distinct.add, ?_⟩
  · simp [AliasDesk.insert, accepted.trimmed, filled, accepted.registered, free]
  · intro sort command held
    rw [AliasTable.mem_texts_add, restored.mem_iff]
    constructor
    · rintro (⟨member, already⟩ | ⟨_, rfl, rfl, rfl⟩)
      · exact ⟨member, .inl already⟩
      · exact ⟨inside, .inr ⟨rfl, rfl, rfl⟩⟩
    · rintro ⟨member, already | ⟨rfl, rfl, rfl⟩⟩
      · exact .inl ⟨member, already⟩
      · -- An alias that is known in another spelling would be held twice.
        by_cases known : grown.has sort command held = true
        · obtain ⟨other, present, same⟩ := AliasTable.has_iff.mp known
          have own := restored.mem_iff.mp present
          obtain rfl := sound.single own.1 member same
          exact .inl own
        · exact .inr ⟨by simpa using known, rfl, rfl, rfl⟩

theorem Restored.congr {later : AliasKind → Text → Text → Prop}
    (restored : Restored table grown due)
    (same : ∀ kind internal text, text ∈ table.texts kind internal →
      (due kind internal text ↔ later kind internal text)) : Restored table grown later :=
  ⟨restored.distinct, by
    intro kind internal text
    rw [restored.mem_iff]
    exact and_congr_right (same kind internal text)⟩

/-- Stored aliases are accepted again, each of them. -/
theorem Restored.restoreEntries (sound : table.Sound directory)
    (restored : Restored table grown due) {entries : List SettingEntry}
    (inside : ∀ entry ∈ entries, entryText entry ∈ table.texts kind internal) :
    Restored table (AliasDesk.restoreEntries directory kind internal entries grown).2
      fun sort command held => due sort command held ∨
        sort = kind ∧ command = internal ∧ ∃ entry ∈ entries, entryText entry = held := by
  induction entries generalizing grown due with
  | nil => exact restored.congr (by simp)
  | cons entry entries inductionHypothesis =>
      rw [List.forall_mem_cons] at inside
      obtain ⟨isNew, next, accepted, restoredFirst⟩ := restored.insert sound inside.1
      have restoredRest := inductionHypothesis restoredFirst inside.2
      simp only [AliasDesk.restoreEntries, accepted]
      refine restoredRest.congr ?_
      intro sort command held _
      rw [List.exists_mem_cons_iff, or_assoc, ← and_or_left, ← and_or_left, @eq_comm Text held]

/-- The aliases of one sort of a command are restored. -/
theorem Restored.restoreKind (sound : table.Sound directory) (mirrors : Mirrors tree table)
    (restored : Restored table grown due) (command : IsSegment internal) (kind : AliasKind) :
    ∃ count next, AliasDesk.restoreKind .memory directory tree internal kind grown =
        (.ok count, next) ∧
      Restored table next fun sort other held =>
        due sort other held ∨ sort = kind ∧ other = internal := by
  have proper : AreSegments [root, internal, segment kind] := areSegments_kind command kind
  have inside : ∀ entry ∈ tree.children (ofSegments [root, internal, segment kind]),
      entryText entry ∈ table.texts kind internal := by
    intro entry member
    obtain ⟨named, listed⟩ := mirrors.entryText_eq sound command member
    exact named ▸ listed
  have joined : join [root, internal, segment kind] =
      .ok (ofSegments [root, internal, segment kind]) :=
    join_eq_ok_iff.mpr ⟨proper.segments, rfl⟩
  refine ⟨_, _, by simp only [AliasDesk.restoreKind, joined, SettingsStore.memory]; rfl, ?_⟩
  refine (restored.restoreEntries sound inside).congr ?_
  intro sort other held member
  refine or_congr_right (and_congr_right fun kinds => and_iff_left_of_imp fun commands => ?_)
  subst kinds commands
  have stored := (mirrors _).mpr ⟨sort, other, held, member, rfl⟩
  obtain ⟨entry, listed, rfl⟩ := (SettingsTree.exists_mem_children_iff (mirrors.isProper sound)
    proper).mpr ⟨[], held, areSegments_names command (sound.accepted member).segment sort, stored⟩
  exact ⟨entry, listed, (mirrors.entryText_eq sound command listed).1⟩

/-- The aliases of commands are restored. -/
theorem Restored.restoreCommands (sound : table.Sound directory) (mirrors : Mirrors tree table)
    (restored : Restored table grown due) {stored : List (Text × AliasKind)}
    (commands : ∀ pair ∈ stored, IsSegment pair.1) :
    ∃ count next, AliasDesk.restoreCommands .memory directory tree stored grown =
        (.ok count, next) ∧
      Restored table next fun sort other held => due sort other held ∨ (other, sort) ∈ stored := by
  induction stored generalizing grown due with
  | nil => exact ⟨0, grown, rfl, restored.congr (by simp)⟩
  | cons pair stored inductionHypothesis =>
      obtain ⟨internal, kind⟩ := pair
      rw [List.forall_mem_cons] at commands
      obtain ⟨count, next, loaded, restoredFirst⟩ :=
        restored.restoreKind sound mirrors commands.1 kind
      obtain ⟨later, last, loadedRest, restoredRest⟩ :=
        inductionHypothesis restoredFirst commands.2
      refine ⟨count + later, last,
        by simp [AliasDesk.restoreCommands, loaded, loadedRest, Except.map], ?_⟩
      refine restoredRest.congr ?_
      intro sort other held _
      rw [List.mem_cons, Prod.mk.injEq, or_assoc, and_comm]

/-- From settings that mirror a sound table, the table is restored. -/
theorem exists_restore_eq_ok (sound : table.Sound directory) (mirrors : Mirrors tree table) :
    ∃ count fresh, restore .memory directory { settings := tree } = (.ok count, fresh) ∧
      ∀ kind internal text, text ∈ fresh.table.texts kind internal ↔
        text ∈ table.texts kind internal := by
  let stored := (tree.children root).flatMap fun command =>
    [(command.name, AliasKind.input), (command.name, AliasKind.reply)]
  have proper : AreSegments [root] :=
    ⟨by simp, by simpa using isSegment_root⟩
  have listed : ∀ name, (∃ entry ∈ tree.children root, entry.name = name) ↔
      ∃ more value, AreSegments (root :: name :: more) ∧
        (ofSegments (root :: name :: more), value) ∈ tree := by
    intro name
    rw [← ofSegments_singleton root]
    exact SettingsTree.exists_mem_children_iff (mirrors.isProper sound) proper
  have memStored : ∀ name kind, (name, kind) ∈ stored ↔
      ∃ entry ∈ tree.children root, entry.name = name := by
    intro name kind
    cases kind <;> simp [stored, eq_comm]
  have commands : ∀ pair ∈ stored, IsSegment pair.1 := by
    intro pair member
    obtain ⟨more, _, properKeys, _⟩ := (listed pair.1).mp ((memStored pair.1 pair.2).mp member)
    exact properKeys.segments pair.1 (by simp)
  have nothing : Restored table [] fun _ _ _ => False := ⟨List.nodup_nil, by simp⟩
  obtain ⟨count, next, loaded, restored⟩ := nothing.restoreCommands sound mirrors commands
  refine ⟨count, { table := next, settings := tree }, ?_, ?_⟩
  · have whole : restore .memory directory { settings := tree } =
        ((AliasDesk.restoreCommands .memory directory tree stored []).1,
          { table := (AliasDesk.restoreCommands .memory directory tree stored []).2
            settings := tree }) := rfl
    rw [whole, loaded]
  · intro kind internal text
    refine restored.mem_iff.trans (and_iff_left_of_imp fun inside => .inr ?_)
    rw [memStored, listed]
    have accepted := sound.accepted inside
    exact ⟨[segment kind, text], text, areSegments_names accepted.command accepted.segment kind,
      (mirrors _).mpr ⟨kind, internal, text, inside, rfl⟩⟩

/-- A fresh desk that loads the settings comes to hold the same aliases. -/
def Restorable (directory : Directory) (desk : AliasDesk SettingsTree) : Prop :=
  ∃ count fresh, restore .memory directory { settings := desk.settings } = (.ok count, fresh) ∧
    ∀ kind internal text, text ∈ fresh.table.texts kind internal ↔
      text ∈ desk.table.texts kind internal

end AliasDesk

end CommandLink
