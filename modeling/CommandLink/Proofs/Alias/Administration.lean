import CommandLink.Proofs.Alias.Restoration
import CommandLink.Proofs.Alias.Steps

/-!
# Alias administration over a store in memory

What it takes for a change of the aliases to be granted, and what comes of it. As long as a removal
spells the alias as it is held, the settings go on to mirror the table. A removal in another letter
case takes the alias from the table but not from the settings, so that it comes back when they are
loaded (`not_restorable_of_remove`).
-/

namespace CommandLink

open SettingsPath

namespace AliasDesk

variable {directory : Directory} {desk next : AliasDesk SettingsTree}
  {kind : AliasKind} {internal raw : Text}

/-- What it takes to add an alias, and what comes of it. -/
theorem add_eq_ok (granted : desk.add .memory directory kind internal raw = (.ok (), next)) :
    AcceptedAlias directory internal (Text.trim raw) ∧
      (kind = .input → desk.table.rival? internal (Text.trim raw) = none) ∧
      next =
        { table := desk.table.add kind internal (Text.trim raw)
          settings :=
            if desk.table.has kind internal (Text.trim raw) then desk.settings
            else desk.settings.insert (ofSegments (names kind internal (Text.trim raw)))
              (Text.trim raw) } := by
  cases addStep granted with
  | known joined accepted known =>
      obtain ⟨segments, _⟩ := join_eq_ok_iff.mp joined
      exact ⟨⟨accepted.registered, segments _ (by simp), segments _ (by simp), accepted.trimmed⟩,
        accepted.free, by simp [known]⟩
  | stored joined accepted new updated =>
      obtain ⟨segments, rfl⟩ := join_eq_ok_iff.mp joined
      have proper : AreSegments [root, internal, segment kind, Text.trim raw] := ⟨by simp, segments⟩
      simp only [SettingsStore.memory, validate_ofSegments proper] at updated
      cases updated
      exact ⟨⟨accepted.registered, segments _ (by simp), segments _ (by simp), accepted.trimmed⟩,
        accepted.free, by simp [new, names]⟩

/-- What comes of it when an alias is removed. -/
theorem remove_eq_ok {removed : Bool}
    (granted : desk.remove .memory kind internal raw = (.ok removed, next)) :
    next.table = desk.table.forget kind internal (Text.trim raw) ∧
      (desk.table.has kind internal (Text.trim raw) = false ∧ next.settings = desk.settings ∨
        desk.table.has kind internal (Text.trim raw) = true ∧
          AreSegments (names kind internal (Text.trim raw)) ∧
          next.settings =
            desk.settings.removeSubtree (ofSegments (names kind internal (Text.trim raw)))) := by
  cases removeStep granted with
  | absent absent => exact ⟨rfl, .inl ⟨absent, rfl⟩⟩
  | removed known joined removed =>
      obtain ⟨segments, rfl⟩ := join_eq_ok_iff.mp joined
      have proper : AreSegments [root, internal, segment kind, Text.trim raw] := ⟨by simp, segments⟩
      simp only [SettingsStore.memory, validate_ofSegments proper] at removed
      cases removed
      exact ⟨rfl, .inr ⟨known, proper, rfl⟩⟩

/-- What comes of it when a command is cleared. -/
theorem clear_eq_ok {removed : Bool} (granted : desk.clear .memory internal = (.ok removed, next)) :
    AreSegments [root, internal] ∧
      next =
        { table := desk.table.clear internal
          settings := desk.settings.removeSubtree (ofSegments [root, internal]) } := by
  cases clearStep granted with
  | cleared joined removed =>
      obtain ⟨segments, rfl⟩ := join_eq_ok_iff.mp joined
      have proper : AreSegments [root, internal] := ⟨by simp, segments⟩
      simp only [SettingsStore.memory, validate_ofSegments proper] at removed
      cases removed
      exact ⟨proper, rfl⟩

/-- The table is sound, and the settings mirror it. -/
structure Kept (directory : Directory) (desk : AliasDesk SettingsTree) : Prop where
  sound : desk.table.Sound directory
  mirrors : Mirrors desk.settings desk.table

theorem kept_empty (directory : Directory) : Kept directory { settings := [] } :=
  ⟨.nil directory, by simp [Mirrors]⟩

theorem Kept.add (kept : Kept directory desk)
    (granted : desk.add .memory directory kind internal raw = (.ok (), next)) :
    Kept directory next := by
  obtain ⟨accepted, free, rfl⟩ := add_eq_ok granted
  refine ⟨kept.sound.add accepted free, ?_⟩
  cases known : desk.table.has kind internal (Text.trim raw) with
  | false => exact kept.mirrors.insert kept.sound accepted known
  | true => exact kept.mirrors.congr (by simp [AliasTable.mem_texts_add, known])

theorem Kept.clear {removed : Bool} (kept : Kept directory desk)
    (granted : desk.clear .memory internal = (.ok removed, next)) : Kept directory next := by
  obtain ⟨proper, rfl⟩ := clear_eq_ok granted
  refine ⟨kept.sound.of_subset kept.sound.distinct.clear fun member =>
    (AliasTable.mem_texts_clear.mp member).1, kept.mirrors.removeSubtree kept.sound proper ?_⟩
  intro kind command text
  rw [AliasTable.mem_texts_clear, command_prefix_names_iff]

/-- Removing an alias keeps the settings in step if it is spelled as it is held. -/
theorem Kept.remove {removed : Bool} (kept : Kept directory desk)
    (granted : desk.remove .memory kind internal raw = (.ok removed, next))
    (spelled : desk.table.has kind internal (Text.trim raw) = true →
      Text.trim raw ∈ desk.table.texts kind internal) : Kept directory next := by
  obtain ⟨forgotten, ⟨absent, unchanged⟩ | ⟨known, proper, removed⟩⟩ := remove_eq_ok granted
  all_goals
    refine ⟨forgotten ▸ kept.sound.of_subset kept.sound.distinct.forget fun member =>
      ((AliasTable.mem_texts_forget kept.sound.distinct).mp member).1, ?_⟩
  · rw [unchanged, forgotten]
    refine kept.mirrors.congr fun sort command held => ?_
    rw [AliasTable.mem_texts_forget kept.sound.distinct]
    refine (and_iff_left_of_imp ?_).symm
    rintro inside ⟨rfl, rfl, same⟩
    exact absurd (AliasTable.has_iff.mpr ⟨held, inside, same⟩) (by simp [absent])
  · rw [removed, forgotten]
    have inside := spelled known
    -- The table forgets all spellings and the settings one, but no other is held.
    refine kept.mirrors.removeSubtree kept.sound proper fun sort command held => ?_
    rw [AliasTable.mem_texts_forget kept.sound.distinct, names_prefix_names_iff]
    refine and_congr_right fun member => not_congr (and_congr_right fun commands =>
      and_congr_right fun kinds => ⟨fun same => ?_, fun same => same ▸ Text.sameName_iff.mpr rfl⟩)
    subst commands kinds
    exact kept.sound.single member inside same

/-- Removing an alias in another letter case leaves the settings as they are. -/
theorem mirrors_of_remove {removed : Bool} (kept : Kept directory desk)
    (granted : desk.remove .memory kind internal raw = (.ok removed, next))
    (known : desk.table.has kind internal (Text.trim raw) = true)
    (other : Text.trim raw ∉ desk.table.texts kind internal) :
    Mirrors next.settings desk.table := by
  obtain ⟨_, ⟨absent, _⟩ | ⟨_, proper, removed⟩⟩ := remove_eq_ok granted
  · exact absurd known (by simp [absent])
  · rw [removed]
    refine kept.mirrors.removeSubtree kept.sound proper fun sort command held => ?_
    rw [names_prefix_names_iff]
    refine (and_iff_left_of_imp ?_).symm
    rintro inside ⟨rfl, rfl, rfl⟩
    exact other inside

theorem Kept.restorable (kept : Kept directory desk) : Restorable directory desk :=
  exists_restore_eq_ok kept.sound kept.mirrors

/-- An alias that was removed in another letter case comes back. -/
theorem not_restorable_of_remove {removed : Bool} (kept : Kept directory desk)
    (granted : desk.remove .memory kind internal raw = (.ok removed, next))
    (known : desk.table.has kind internal (Text.trim raw) = true)
    (other : Text.trim raw ∉ desk.table.texts kind internal) : ¬ Restorable directory next := by
  rintro ⟨_, fresh, loaded, agrees⟩
  obtain ⟨_, whole, loadedWhole, restored⟩ :=
    exists_restore_eq_ok kept.sound (mirrors_of_remove kept granted known other)
  obtain rfl : fresh = whole := congrArg Prod.snd (loaded.symm.trans loadedWhole)
  obtain ⟨held, inside, same⟩ := AliasTable.has_iff.mp known
  have left := (agrees kind internal held).mp ((restored kind internal held).mpr inside)
  rw [(remove_eq_ok granted).1, AliasTable.mem_texts_forget kept.sound.distinct] at left
  exact left.2 ⟨rfl, rfl, same⟩

end AliasDesk

end CommandLink
