import CommandLink.Alias.Manager
import CommandLink.Proofs.Alias.Table
import CommandLink.Proofs.Settings.Tree

/-!
# Aliases and their settings

What a table is like whose aliases were accepted one after another, and how settings stand for it:
they mirror the table when they hold exactly its aliases, each under its own path. Adding to both
and removing from both keeps them alike.
-/

namespace CommandLink

open SettingsPath

/-- What an alias of a command is like if it was accepted and stored. -/
structure AcceptedAlias (directory : Directory) (internal text : Text) : Prop where
  registered : directory internal = true
  command : IsSegment internal
  segment : IsSegment text
  trimmed : Text.trim text = text

/-- What a table is like whose aliases were accepted one after another: an alias is not held twice,
and no input alias is held for two commands, in whatever letter case. -/
structure AliasTable.Sound (directory : Directory) (table : AliasTable) : Prop where
  distinct : table.IsDistinct
  accepted : ∀ {kind internal text}, text ∈ table.texts kind internal →
    AcceptedAlias directory internal text
  single : ∀ {kind internal text other}, text ∈ table.texts kind internal →
    other ∈ table.texts kind internal → Text.sameName text other = true → text = other
  owned : ∀ {internal command text other}, text ∈ table.texts .input internal →
    other ∈ table.texts .input command → Text.sameName text other = true → internal = command

namespace AliasTable.Sound

variable {directory : Directory} {table : AliasTable} {kind : AliasKind} {internal text : Text}

theorem nil (directory : Directory) : Sound directory [] where
  distinct := List.nodup_nil
  accepted member := absurd member (by simp)
  single member := absurd member (by simp)
  owned member := absurd member (by simp)

/-- A table is sound if it holds no aliases but those of a sound one. -/
theorem of_subset {fewer : AliasTable} (sound : table.Sound directory) (distinct : fewer.IsDistinct)
    (inside : ∀ {kind internal text}, text ∈ fewer.texts kind internal →
      text ∈ table.texts kind internal) : fewer.Sound directory where
  distinct := distinct
  accepted member := sound.accepted (inside member)
  single member other same := sound.single (inside member) (inside other) same
  owned member other same := sound.owned (inside member) (inside other) same

/-- A table stays sound when an alias is added that was accepted. -/
theorem add (sound : table.Sound directory) (accepted : AcceptedAlias directory internal text)
    (free : kind = .input → table.rival? internal text = none) :
    (table.add kind internal text).Sound directory where
  distinct := sound.distinct.add
  accepted member := by
    rcases mem_texts_add.mp member with old | ⟨_, rfl, _, rfl⟩
    · exact sound.accepted old
    · exact accepted
  single member memberOther same := by
    rcases mem_texts_add.mp member with old | ⟨new, command, sort, rfl⟩ <;>
      rcases mem_texts_add.mp memberOther with
        oldOther | ⟨new_other, command_other, sort_other, rfl⟩
    · exact sound.single old oldOther same
    · subst command_other sort_other
      exact absurd (has_iff.mpr ⟨_, old, same⟩) (by simp [new_other])
    · subst command sort
      exact absurd (has_iff.mpr ⟨_, oldOther, Text.sameName_symm same⟩) (by simp [new])
    · rfl
  owned member memberOther same :=
    IsExclusive.add (fun _ _ _ _ => sound.owned) sound.distinct free member memberOther same

end AliasTable.Sound

namespace AliasDesk

variable {directory : Directory} {table : AliasTable} {tree : SettingsTree}
  {kind sort : AliasKind} {internal command text held : Text}

theorem isSegment_root : IsSegment root :=
  ⟨by decide, by decide⟩

theorem isSegment_segment (kind : AliasKind) : IsSegment (segment kind) := by
  cases kind <;> exact ⟨by decide, by decide⟩

theorem segment_injective {kind sort : AliasKind} (same : segment kind = segment sort) :
    kind = sort := by
  cases kind <;> cases sort <;> first | rfl | exact absurd same (by decide)

/-- The segments of the path under which an alias is stored. -/
def names (kind : AliasKind) (internal text : Text) : List Text :=
  [root, internal, segment kind, text]

theorem areSegments_names (command : IsSegment internal) (plain : IsSegment text)
    (kind : AliasKind) : AreSegments (names kind internal text) := by
  refine ⟨by simp [names], ?_⟩
  simp only [names, List.forall_mem_cons, List.not_mem_nil, false_implies, implies_true, and_true]
  exact ⟨isSegment_root, command, isSegment_segment kind, plain⟩

/-- Settings hold the aliases of a table, each under its path, and nothing else. -/
def Mirrors (tree : SettingsTree) (table : AliasTable) : Prop :=
  ∀ entry, entry ∈ tree ↔ ∃ kind internal text, text ∈ table.texts kind internal ∧
    entry = (ofSegments (names kind internal text), text)

theorem Mirrors.isProper (mirrors : Mirrors tree table) (sound : table.Sound directory) :
    tree.IsProper := by
  intro entry stored
  obtain ⟨kind, internal, text, inside, rfl⟩ := (mirrors entry).mp stored
  have accepted := sound.accepted inside
  exact ⟨names kind internal text, areSegments_names accepted.command accepted.segment kind, rfl⟩

/-- Whatever is stored under a path of segments is an alias, and the segments are its own. -/
theorem Mirrors.names_eq (mirrors : Mirrors tree table) (sound : table.Sound directory)
    {keys : List Text} {value : Text} (proper : AreSegments keys)
    (stored : (ofSegments keys, value) ∈ tree) :
    ∃ kind internal, value ∈ table.texts kind internal ∧ keys = names kind internal value := by
  obtain ⟨kind, internal, text, inside, same⟩ := (mirrors _).mp stored
  obtain ⟨path, rfl⟩ := Prod.mk.inj same
  have accepted := sound.accepted inside
  rw [ofSegments_inj proper (areSegments_names accepted.command accepted.segment kind)] at path
  exact ⟨kind, internal, inside, path⟩

/-- Storing an alias that is added to the table. -/
theorem Mirrors.insert (mirrors : Mirrors tree table) (sound : table.Sound directory)
    (accepted : AcceptedAlias directory internal text)
    (new : table.has kind internal text = false) :
    Mirrors (tree.insert (ofSegments (names kind internal text)) text)
      (table.add kind internal text) := by
  have absent : ∀ entry ∈ tree, entry.1 ≠ ofSegments (names kind internal text) := by
    rintro ⟨key, value⟩ stored rfl
    obtain ⟨sort, command, inside, same⟩ := mirrors.names_eq sound
      (areSegments_names accepted.command accepted.segment kind) stored
    simp only [names, List.cons.injEq, true_and, and_true] at same
    obtain ⟨rfl, kinds, rfl⟩ := same
    obtain rfl := segment_injective kinds
    refine absurd (AliasTable.has_iff.mpr ⟨text, inside, Text.sameName_iff.mpr rfl⟩) ?_
    simp [new]
  intro entry
  rw [SettingsTree.insert, Value.mem_insertField_iff absent, mirrors]
  constructor
  · rintro (rfl | ⟨sort, command, held, inside, rfl⟩)
    · exact ⟨kind, internal, text, AliasTable.mem_texts_add.mpr (.inr ⟨new, rfl, rfl, rfl⟩), rfl⟩
    · exact ⟨sort, command, held, AliasTable.mem_texts_add.mpr (.inl inside), rfl⟩
  · rintro ⟨sort, command, held, inside, rfl⟩
    rcases AliasTable.mem_texts_add.mp inside with old | ⟨_, rfl, rfl, rfl⟩
    · exact .inr ⟨sort, command, held, old, rfl⟩
    · exact .inl rfl

/-- Removing a path from the settings. -/
theorem Mirrors.removeSubtree {start : List Text} {fewer : AliasTable}
    (mirrors : Mirrors tree table) (sound : table.Sound directory) (proper : AreSegments start)
    (same : ∀ kind internal text, text ∈ fewer.texts kind internal ↔
      text ∈ table.texts kind internal ∧ ¬ start <+: names kind internal text) :
    Mirrors (tree.removeSubtree (ofSegments start)) fewer := by
  have keptIff : ∀ {kind internal text}, text ∈ table.texts kind internal →
      ((ofSegments (names kind internal text), text) ∈ tree.removeSubtree (ofSegments start) ↔
        (ofSegments (names kind internal text), text) ∈ tree ∧
          ¬ start <+: names kind internal text) := fun inside =>
    SettingsTree.mem_removeSubtree_iff proper
      (areSegments_names (sound.accepted inside).command (sound.accepted inside).segment _)
  intro entry
  constructor
  · intro kept
    obtain ⟨kind, internal, text, inside, rfl⟩ := (mirrors entry).mp (List.mem_filter.mp kept).1
    exact ⟨kind, internal, text,
      (same kind internal text).mpr ⟨inside, ((keptIff inside).mp kept).2⟩, rfl⟩
  · rintro ⟨kind, internal, text, left, rfl⟩
    obtain ⟨inside, elsewhere⟩ := (same kind internal text).mp left
    exact (keptIff inside).mpr ⟨(mirrors _).mpr ⟨kind, internal, text, inside, rfl⟩, elsewhere⟩

theorem Mirrors.congr {other : AliasTable} (mirrors : Mirrors tree table)
    (same : ∀ kind internal text, text ∈ table.texts kind internal ↔
      text ∈ other.texts kind internal) : Mirrors tree other := by
  intro entry
  simp only [mirrors entry, same]

theorem names_prefix_names_iff :
    names kind internal text <+: names sort command held ↔
      command = internal ∧ sort = kind ∧ held = text := by
  have kinds : segment kind = segment sort ↔ sort = kind :=
    ⟨fun same => (segment_injective same).symm, fun same => same ▸ rfl⟩
  simp [names, List.cons_prefix_cons, kinds, eq_comm]

theorem command_prefix_names_iff :
    [root, internal] <+: names kind command text ↔ command = internal := by
  simp [names, List.cons_prefix_cons, eq_comm]

end AliasDesk

end CommandLink
