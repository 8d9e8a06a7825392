import CommandLink.Proofs.Settings.Maps

/-!
# Requests that fail

A store over a file changes its settings before it saves them, and keeps the change when the save
fails. So after a request that failed everything is listed as if it had been granted, and there are
few such requests that leave the listings alone (`listings_eq_iff_of_error`).
-/

namespace CommandLink

open SettingsPath

namespace SettingsTree

variable {tree other : SettingsTree} {path place value : Text}

theorem hasPath_insert_iff :
    (tree.insert path value).HasPath place ↔
      (place = path ∨ place ++ ['/'] <+: path) ∨ tree.HasPath place := by
  constructor
  · rintro ⟨entry, member, there⟩
    rcases Value.mem_of_mem_insertField member with rfl | old
    · exact .inl (there.imp_left Eq.symm)
    · exact .inr ⟨entry, old, there⟩
  · rintro (there | ⟨entry, member, there⟩)
    · exact ⟨(path, value), Value.mem_insertField_self, there.imp_left Eq.symm⟩
    · by_cases same : entry.1 = path
      · exact ⟨(path, value), Value.mem_insertField_self, same ▸ there⟩
      · exact ⟨entry, Value.mem_insertField_of_ne same member, there⟩

theorem isOrdered_insert (ordered : Value.IsOrdered tree) :
    Value.IsOrdered (tree.insert path value) :=
  ordered.insertField

theorem get?_insert (ordered : Value.IsOrdered tree) :
    (tree.insert path value).get? place = if place = path then some value else tree.get? place := by
  refine Option.ext fun found => ?_
  rw [← mem_iff_get? (isOrdered_insert ordered), insert, ordered.mem_insertField_iff]
  by_cases same : place = path
  · simp [same, eq_comm]
  · simp [same, mem_iff_get? ordered]

/-- A path above another one that is there is there as well. -/
theorem HasPath.of_prefix (there : tree.HasPath path) (above : place ++ ['/'] <+: path) :
    tree.HasPath place := by
  obtain ⟨entry, member, rfl | below⟩ := there
  · exact ⟨entry, member, .inr above⟩
  · exact ⟨entry, member, .inr (above.trans ((List.prefix_append path ['/']).trans below))⟩

theorem not_hasPath_removeSubtree (tree : SettingsTree) (path : Text) :
    ¬ (tree.removeSubtree path).HasPath path := by
  rintro ⟨entry, member, there⟩
  have kept := (List.mem_filter.mp member).2
  rw [Bool.and_eq_true, bne_iff_ne, Bool.not_eq_true', ← Bool.not_eq_true,
    List.isPrefixOf_iff_prefix] at kept
  exact there.elim kept.1 kept.2

/-- Something is removed only from a path that is there. -/
theorem hasPath_of_removeSubtree_ne (removed : tree.removeSubtree path ≠ tree) :
    tree.HasPath path := by
  rw [removeSubtree, Ne, List.filter_eq_self] at removed
  push Not at removed
  obtain ⟨entry, member, dropped⟩ := removed
  refine ⟨entry, member, ?_⟩
  rw [← List.isPrefixOf_iff_prefix]
  by_cases own : entry.1 = path
  · exact .inl own
  · exact .inr (by simpa [own] using dropped)

/-- Every path that names a setting is listed under another one. -/
theorem exists_below_append (formed : ¬ IsMalformed path) :
    ∃ above name, '/' ∉ name ∧ below (inner above) ++ name = inner path := by
  have proper := areSegments_of_not_isMalformed formed
  obtain ⟨front, name, whole⟩ :=
    (List.eq_nil_or_concat (segments (inner path))).resolve_left proper.filled
  rw [List.concat_eq_append] at whole
  have plain : '/' ∉ name := (proper.segments name (by simp [whole])).plain
  have listed : ∀ above, parents above = front → below (inner above) ++ name = inner path := by
    intro above segmentsAbove
    have joined := below_inner_append above (List.cons_ne_nil name [])
    rw [ofSegments_singleton, segmentsAbove, ← whole, ofSegments_segments] at joined
    exact joined
  by_cases root : front = []
  · exact ⟨[], name, plain, listed [] (root ▸ rfl)⟩
  · have properFront := proper.of_prefix root ⟨[name], whole.symm⟩
    exact ⟨ofSegments front, name, plain, listed _ (parents_ofSegments properFront)⟩

/-- Trees that are listed alike everywhere show the same at every path that names a setting. -/
theorem shows_iff_of_children_eq (ordered : Value.IsOrdered tree)
    (orderedOther : Value.IsOrdered other) (same : ∀ path, tree.children path = other.children path)
    (formed : ¬ IsMalformed path) :
    tree.Shows (inner path) value ↔ other.Shows (inner path) value := by
  obtain ⟨above, name, plain, whole⟩ := exists_below_append formed
  rw [← whole]
  exact (children_eq_iff ordered orderedOther).mp (same above) name value plain

/-- Setting a value shows in some listing, unless it is the empty value of a path that is there
already without one. -/
theorem children_insert_eq_iff (ordered : Value.IsOrdered tree) (formed : ¬ IsMalformed path)
    (changed : tree.get? (inner path) ≠ some value) :
    (∀ place, (tree.insert (inner path) value).children place = tree.children place) ↔
      value = [] ∧ tree.get? (inner path) = none ∧ tree.HasPath (inner path) := by
  constructor
  · intro same
    have shown : (tree.insert (inner path) value).Shows (inner path) value :=
      ⟨(hasPath_insert_iff).mpr (.inl (.inl rfl)), by simp [get?_insert ordered]⟩
    obtain ⟨there, own⟩ :=
      (shows_iff_of_children_eq (isOrdered_insert ordered) ordered same formed).mp shown
    cases found : tree.get? (inner path) with
    | none => exact ⟨by simpa [found] using own, rfl, there⟩
    | some old =>
        rw [found] at own changed
        exact absurd (congrArg some own.symm) changed
  · rintro ⟨rfl, unset, there⟩ place
    refine (children_eq_iff (isOrdered_insert ordered) ordered).mpr fun name value _ => ?_
    generalize below (inner place) ++ name = shown
    refine and_congr ?_ ?_
    · rw [hasPath_insert_iff, or_iff_right_of_imp]
      rintro (rfl | above)
      · exact there
      · exact there.of_prefix above
    · rw [get?_insert ordered]
      split
      case isTrue same => simp [same, unset]
      case isFalse => rfl

/-- Removing what is there shows in some listing. -/
theorem not_children_removeSubtree_eq (ordered : Value.IsOrdered tree)
    (formed : ¬ IsMalformed path) (removed : tree.removeSubtree (inner path) ≠ tree) :
    ¬ ∀ place, (tree.removeSubtree (inner path)).children place = tree.children place := by
  intro same
  have shown : tree.Shows (inner path) ((tree.get? (inner path)).getD []) :=
    ⟨hasPath_of_removeSubtree_ne removed, rfl⟩
  have still := (shows_iff_of_children_eq (ordered.filter _) ordered same formed).mpr shown
  exact not_hasPath_removeSubtree tree (inner path) still.1

end SettingsTree

namespace SettingsRequest

/-- A request changes settings where no listing shows it: it gives the empty value to a path that
has none, but is listed because others go on from it. -/
def IsUnseen (tree : SettingsTree) : SettingsRequest → Prop
  | .update path value =>
      value = [] ∧ tree.get? (inner path) = none ∧ tree.HasPath (inner path)
  | .remove _ => False

variable {request : SettingsRequest} {settings next : FileSettings} {error : SettingsError}

/-- Listings show what a request changes, unless it is unseen. -/
theorem children_perform_eq_iff {tree : SettingsTree} (ordered : Value.IsOrdered tree)
    (formed : ¬ IsMalformed request.path) (changed : request.changes tree = true) :
    (∀ place, (request.perform .memory tree).2.children place = tree.children place) ↔
      request.IsUnseen tree := by
  cases request with
  | update path value =>
      have formed : ¬ IsMalformed path := formed
      rw [changes, perform_memory_update formed, SettingsKey.ofSegments_ofPath, bne_iff_ne] at changed
      rw [perform_memory_update formed, SettingsKey.ofSegments_ofPath]
      exact SettingsTree.children_insert_eq_iff ordered formed
        fun held => changed (ordered.insertField_eq_self_iff.mpr held)
  | remove path =>
      have formed : ¬ IsMalformed path := formed
      rw [changes, perform_memory_remove formed, SettingsKey.ofSegments_ofPath, bne_iff_ne] at changed
      rw [perform_memory_remove formed, SettingsKey.ofSegments_ofPath]
      exact iff_of_false (SettingsTree.not_children_removeSubtree_eq ordered formed changed) id

/-- A request with a malformed path fails and changes nothing. -/
theorem eq_of_isMalformed (ordered : Value.IsOrdered settings.tree)
    (malformed : IsMalformed request.path)
    (performed : request.perform FileSettings.store settings = (.error error, next)) :
    next = settings := by
  rw [perform_file_eq request ordered, perform_memory_of_isMalformed request malformed] at performed
  exact (congrArg Prod.snd performed).symm

/-- Any other request fails because its save fails. It has something to change then, and the change
is kept. -/
theorem kept_of_error (ordered : Value.IsOrdered settings.tree)
    (formed : ¬ IsMalformed request.path)
    (failed : request.perform FileSettings.store settings = (.error error, next)) :
    request.changes settings.tree = true ∧
      next.tree = (request.perform .memory settings.tree).2 := by
  have granted := request.perform_memory_of_not_isMalformed formed settings.tree
  rw [perform_file_eq request ordered] at failed
  rw [changes, bne_iff_ne]
  cases performed : request.perform .memory settings.tree with
  | mk result after =>
      obtain rfl : result = .ok () := by rwa [performed] at granted
      simp only [performed] at failed
      split at failed
      case isTrue => cases failed
      case isFalse changed =>
        obtain rfl := congrArg Prod.snd failed
        exact ⟨changed, rfl⟩

/-- After a request that failed, every path is listed as if the request had been granted. So it is
listed as before only if the path of the request is malformed, or the change is unseen. -/
theorem listings_eq_iff_of_error (ordered : Value.IsOrdered settings.tree)
    (failed : request.perform FileSettings.store settings = (.error error, next)) :
    (∀ place, FileSettings.store.loadAll place next =
        SettingsStore.memory.loadAll place (request.perform .memory settings.tree).2) ∧
      ((∀ place, FileSettings.store.loadAll place next =
          FileSettings.store.loadAll place settings) ↔
        IsMalformed request.path ∨ request.IsUnseen settings.tree) := by
  by_cases malformed : IsMalformed request.path
  · obtain rfl := eq_of_isMalformed ordered malformed failed
    rw [request.perform_memory_of_isMalformed malformed]
    exact ⟨fun _ => rfl, iff_of_true (fun _ => rfl) (.inl malformed)⟩
  · obtain ⟨changed, kept⟩ := kept_of_error ordered malformed failed
    have listed : ∀ settings place,
        FileSettings.store.loadAll place settings = .ok (settings.tree.children place) :=
      fun _ _ => rfl
    simp only [listed, kept, Except.ok.injEq]
    refine ⟨fun _ => rfl, ?_⟩
    rw [children_perform_eq_iff ordered malformed changed, or_iff_right malformed]

/-- A path that others go on from is given the empty value, and the save fails at the last moment:
the value is kept, but it was listed as empty before. -/
theorem listings_eq_iff_of_error_unseen :
    ∃ next, (SettingsRequest.update "a" []).perform FileSettings.store
        ⟨[("a/b", "1")], { faults := [some .rename] }⟩ = (.error .io, next) ∧
      next.tree = ([("a", []), ("a/b", "1")] : SettingsTree) ∧
      ∀ place, FileSettings.store.loadAll place next =
        FileSettings.store.loadAll place ⟨[("a/b", "1")], { faults := [some .rename] }⟩ := by
  have ordered : Value.IsOrdered ([("a/b", "1")] : SettingsTree) := List.pairwise_singleton _ _
  have failed : (SettingsRequest.update "a" []).perform FileSettings.store
      ⟨[("a/b", "1")], { faults := [some .rename] }⟩ =
      (.error .io, ⟨[("a", []), ("a/b", "1")],
        ⟨.present none (some (FileSettings.encode [("a", []), ("a/b", "1")])), []⟩⟩) := rfl
  refine ⟨_, failed, rfl, (listings_eq_iff_of_error ordered failed).2.mpr (.inr ⟨rfl, rfl, ?_⟩)⟩
  exact ⟨_, List.mem_singleton_self _, .inr (by decide)⟩

/-- Something is in the way of the folder, so that nothing can be saved. A value that is set is
listed all the same, and a setting that is removed is not listed any more. -/
theorem exists_error_listed :
    ∃ changed removed : FileSettings,
      (SettingsRequest.update "b" "2").perform FileSettings.store
          ⟨[("a", "1")], { folder := .obstructed }⟩ = (.error .io, changed) ∧
        FileSettings.store.loadAll [] changed = .ok [⟨"a", "1", "a"⟩, ⟨"b", "2", "b"⟩] ∧
      (SettingsRequest.remove "a").perform FileSettings.store
          ⟨[("a", "1")], { folder := .obstructed }⟩ = (.error .io, removed) ∧
        FileSettings.store.loadAll [] removed = .ok [] ∧
      FileSettings.store.loadAll [] (FileSettings.mk [("a", "1")] { folder := .obstructed }) =
        .ok [⟨"a", "1", "a"⟩] :=
  ⟨_, _, rfl, rfl, rfl, rfl, rfl⟩

end SettingsRequest

end CommandLink
