import CommandLink.Proofs.Settings.Paths
import CommandLink.Proofs.Value.Fields

/-!
# Settings under paths

What settings trees hold, in terms of the segments of their paths. The children of a path are named
by the segments that follow it (`exists_mem_children_iff`), and those of them that have a value of
their own are listed with it (`value_of_mem_children`).
-/

namespace CommandLink.SettingsTree

open SettingsPath

/-- All settings stand under paths. -/
def IsProper (tree : SettingsTree) : Prop :=
  ∀ entry ∈ tree, ∃ keys, AreSegments keys ∧ entry.1 = ofSegments keys

variable {tree : SettingsTree} {names keys : List Text} {name rest value : Text}
  {found : List (Text × Option Text)}

/-- Removing a path removes all settings whose paths go on from it. -/
theorem mem_removeSubtree_iff (proper : AreSegments names) (properKeys : AreSegments keys) :
    (ofSegments keys, value) ∈ tree.removeSubtree (ofSegments names) ↔
      (ofSegments keys, value) ∈ tree ∧ ¬ names <+: keys := by
  have kept : (ofSegments keys != ofSegments names &&
      !(ofSegments names ++ ['/']).isPrefixOf (ofSegments keys)) = true ↔ ¬ names <+: keys := by
    rw [prefix_iff_of_ofSegments proper properKeys, ← List.isPrefixOf_iff_prefix, not_or,
      Bool.and_eq_true, bne_iff_ne, Bool.not_eq_true', Bool.not_eq_true]
  rw [removeSubtree, List.mem_filter, kept]

/-- What a path below a listed one says about its direct children. -/
def child (rest value : Text) : Text × Option Text :=
  ((Text.cut '/' rest).1, if (Text.cut '/' rest).2.isNone then some value else none)

/-- The child is the path itself, with the value, or what stands in front of its first slash. -/
theorem child_cases (rest value : Text) :
    '/' ∉ rest ∧ child rest value = (rest, some value) ∨
      ∃ name more, '/' ∉ name ∧ rest = name ++ '/' :: more ∧ child rest value = (name, none) := by
  rcases Text.cut_cases '/' rest with ⟨plain, cut⟩ | ⟨name, more, plain, whole, cut⟩
  · exact .inl ⟨plain, by simp [child, cut]⟩
  · exact .inr ⟨name, more, plain, whole, by simp [child, cut]⟩

theorem child_ofSegments {more : List Text} (proper : AreSegments (name :: more)) (value : Text) :
    child (ofSegments (name :: more)) value = (name, if more = [] then some value else none) := by
  rw [child, cut_ofSegments proper]
  by_cases last : more = [] <;> simp [last]

theorem mem_of_mem_addChild {field : Text × Option Text}
    (member : field ∈ addChild found rest value) : field = child rest value ∨ field ∈ found := by
  unfold addChild at member
  split at member
  case h_1 name cut =>
    have own : child rest value = (name, some value) := by simp [child, cut]
    exact own ▸ Value.mem_of_mem_insertField member
  case h_2 name below cut =>
    have own : child rest value = (name, none) := by simp [child, cut]
    split at member
    · exact .inr member
    · exact own ▸ Value.mem_of_mem_insertField member

theorem exists_mem_addChild_iff :
    (∃ value?, (name, value?) ∈ addChild found rest value) ↔
      name = (child rest value).1 ∨ ∃ value?, (name, value?) ∈ found := by
  unfold addChild
  split
  case h_1 first cut =>
    rw [Value.exists_mem_insertField_iff, child, cut]
  case h_2 first below cut =>
    split
    case isTrue known =>
      simp only [List.any_eq_true, beq_iff_eq, Prod.exists, exists_and_right] at known
      obtain ⟨_, ⟨value?, member⟩, rfl⟩ := known
      refine ⟨.inr, ?_⟩
      rintro (same | old)
      · rw [child, cut] at same
        exact ⟨value?, same ▸ member⟩
      · exact old
    case isFalse =>
      rw [Value.exists_mem_insertField_iff, child, cut]

/-- Take a setting into account when the children of a path are listed. -/
def list (start : Text) (found : List (Text × Option Text)) (entry : Text × Text) :
    List (Text × Option Text) :=
  match Text.dropPrefix? start entry.1 with
  | some rest => addChild found rest entry.2
  | none => found

theorem children_eq (tree : SettingsTree) (path : Text) :
    tree.children path =
      (tree.foldl (list (below (inner path))) []).map
        fun field => ⟨field.1, field.2.getD [], below (inner path) ++ field.1⟩ :=
  rfl

theorem mem_of_mem_list {start : Text} {entry : Text × Text} {field : Text × Option Text}
    (member : field ∈ list start found entry) :
    (∃ rest, Text.dropPrefix? start entry.1 = some rest ∧ field = child rest entry.2) ∨
      field ∈ found := by
  unfold list at member
  split at member
  case h_1 rest dropped =>
    exact (mem_of_mem_addChild member).imp_left fun same => ⟨rest, dropped, same⟩
  case h_2 => exact .inr member

theorem exists_mem_list_iff {start : Text} {entry : Text × Text} :
    (∃ value?, (name, value?) ∈ list start found entry) ↔
      (∃ rest, Text.dropPrefix? start entry.1 = some rest ∧ name = (child rest entry.2).1) ∨
        ∃ value?, (name, value?) ∈ found := by
  unfold list
  split
  case h_1 rest dropped => simp [exists_mem_addChild_iff, dropped]
  case h_2 none => simp [none]

/-- What is listed comes from a setting. -/
theorem mem_of_mem_foldl_list {start : Text} {field : Text × Option Text}
    (member : field ∈ tree.foldl (list start) found) :
    (∃ entry ∈ tree, ∃ rest, Text.dropPrefix? start entry.1 = some rest ∧
      field = child rest entry.2) ∨ field ∈ found := by
  induction tree generalizing found with
  | nil => exact .inr member
  | cons entry tree inductionHypothesis =>
      rcases inductionHypothesis member with ⟨later, inside, listed⟩ | earlier
      · exact .inl ⟨later, List.mem_cons_of_mem _ inside, listed⟩
      · exact (mem_of_mem_list earlier).imp_left fun listed => ⟨entry, List.mem_cons_self, listed⟩

/-- Every setting makes a child be listed. -/
theorem exists_mem_foldl_list_iff {start : Text} :
    (∃ value?, (name, value?) ∈ tree.foldl (list start) found) ↔
      (∃ entry ∈ tree, ∃ rest, Text.dropPrefix? start entry.1 = some rest ∧
        name = (child rest entry.2).1) ∨ ∃ value?, (name, value?) ∈ found := by
  induction tree generalizing found with
  | nil => simp
  | cons entry tree inductionHypothesis =>
      rw [List.foldl_cons, inductionHypothesis, exists_mem_list_iff, List.exists_mem_cons_iff,
        or_left_comm, or_assoc]

/-- The child that a setting makes be listed is the segment after the listed path. -/
theorem exists_child_iff (paths : tree.IsProper) (path : Text) {entry : Text × Text}
    (inside : entry ∈ tree) {field : Text × Option Text} :
    (∃ rest, Text.dropPrefix? (below (inner path)) entry.1 = some rest ∧
        field = child rest entry.2) ↔
      ∃ name more, AreSegments (parents path ++ name :: more) ∧
        entry.1 = ofSegments (parents path ++ name :: more) ∧
        field = (name, if more = [] then some entry.2 else none) := by
  constructor
  · rintro ⟨rest, dropped, rfl⟩
    obtain ⟨keys, properKeys, key⟩ := paths entry inside
    rw [key, dropPrefix?_below_inner path properKeys] at dropped
    obtain ⟨more, filled, rfl, rfl⟩ := dropped
    obtain ⟨name, more, rfl⟩ := List.exists_cons_of_ne_nil filled
    exact ⟨name, more, properKeys, key, child_ofSegments (properKeys.of_append filled) entry.2⟩
  · rintro ⟨name, more, properKeys, key, rfl⟩
    refine ⟨ofSegments (name :: more), ?_,
      (child_ofSegments (properKeys.of_append (by simp)) entry.2).symm⟩
    rw [key, dropPrefix?_below_inner path properKeys]
    exact ⟨name :: more, by simp, rfl, rfl⟩

/-- What is found for a path are the segments that follow it in the paths of settings, each with the
value of a setting that it makes be listed. -/
theorem exists_of_mem_foldl_list (paths : tree.IsProper) {path : Text}
    {field : Text × Option Text} (found : field ∈ tree.foldl (list (below (inner path))) []) :
    ∃ more value, AreSegments (parents path ++ field.1 :: more) ∧
      (ofSegments (parents path ++ field.1 :: more), value) ∈ tree ∧
        field.2 = if more = [] then some value else none := by
  obtain ⟨entry, inside, made⟩ := (mem_of_mem_foldl_list found).resolve_right (by simp)
  obtain ⟨name, more, properKeys, key, rfl⟩ := (exists_child_iff paths path inside).mp made
  exact ⟨more, entry.2, properKeys, key ▸ inside, rfl⟩

/-- The children that are listed under a text are the segments that follow it in the paths of
settings. -/
theorem exists_mem_children_parents_iff (paths : tree.IsProper) (path : Text) :
    (∃ entry ∈ tree.children path, entry.name = name) ↔
      ∃ more value, AreSegments (parents path ++ name :: more) ∧
        (ofSegments (parents path ++ name :: more), value) ∈ tree := by
  rw [children_eq]
  constructor
  · rintro ⟨_, member, rfl⟩
    obtain ⟨field, found, rfl⟩ := List.mem_map.mp member
    obtain ⟨more, value, properKeys, inside, _⟩ := exists_of_mem_foldl_list paths found
    exact ⟨more, value, properKeys, inside⟩
  · rintro ⟨more, value, properKeys, inside⟩
    obtain ⟨rest, dropped, same⟩ := (exists_child_iff paths path inside).mpr
      ⟨name, more, properKeys, rfl, rfl⟩
    obtain ⟨value?, listed⟩ := exists_mem_foldl_list_iff.mpr
      (.inl ⟨_, inside, rest, dropped, congrArg Prod.fst same⟩)
    exact ⟨_, List.mem_map_of_mem listed, rfl⟩

/-- The children of a path are the segments that follow it in the paths of settings. -/
theorem exists_mem_children_iff (paths : tree.IsProper) (proper : AreSegments names) :
    (∃ entry ∈ tree.children (ofSegments names), entry.name = name) ↔
      ∃ more value, AreSegments (names ++ name :: more) ∧
        (ofSegments (names ++ name :: more), value) ∈ tree := by
  rw [exists_mem_children_parents_iff paths, parents_ofSegments proper]

/-- A child of a path is listed with its value, if it has one of its own. -/
theorem value_of_mem_children (paths : tree.IsProper) (proper : AreSegments names)
    {entry : SettingEntry} (member : entry ∈ tree.children (ofSegments names)) :
    ∃ more value, AreSegments (names ++ entry.name :: more) ∧
      (ofSegments (names ++ entry.name :: more), value) ∈ tree ∧
        entry.value = if more = [] then value else [] := by
  rw [children_eq] at member
  obtain ⟨field, found, rfl⟩ := List.mem_map.mp member
  obtain ⟨more, value, properKeys, inside, own⟩ := exists_of_mem_foldl_list paths found
  rw [parents_ofSegments proper] at properKeys inside
  refine ⟨more, value, properKeys, inside, ?_⟩
  by_cases last : more = [] <;> simp [own, last]

end CommandLink.SettingsTree
