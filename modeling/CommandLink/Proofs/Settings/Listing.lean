import CommandLink.Proofs.Settings.Tree
import Mathlib.Data.List.Sort

/-!
# Listing settings

The settings below a path stand side by side, so that they are found by a scan from the first of
them to the first that is not (`children_eq_scan`). What is found for a path are its children in the
order of their names (`isOrdered_foldl_list`), each with the value of its own setting if there is
one (`mem_foldl_list_iff`).
-/

namespace CommandLink

namespace Text

variable {start text later : Text}

/-- No text comes before its own beginning. -/
theorem compare_ne_lt_of_prefix (begins : start <+: text) : compare text start ≠ .lt := by
  obtain ⟨rest, rfl⟩ := begins
  induction start with
  | nil =>
      intro less
      cases rest <;> cases less
  | cons c start inductionHypothesis =>
      rw [List.cons_append, List.compare_cons_cons, Std.ReflOrd.compare_self]
      exact inductionHypothesis

/-- After a text that comes too late to have a beginning, no text has it. -/
theorem not_prefix_of_lt (after : compare text start ≠ .lt) (other : ¬ start <+: text)
    (less : compare text later = .lt) : ¬ start <+: later := by
  induction start generalizing text later with
  | nil => exact absurd List.nil_prefix other
  | cons c start inductionHypothesis =>
      rintro ⟨rest, rfl⟩
      cases text with
      | nil => exact after rfl
      | cons d text =>
          rw [List.cons_append, List.compare_cons_cons] at less
          rw [List.compare_cons_cons] at after
          cases first : compare d c with
          | lt => simp [first] at after
          | gt => simp [first] at less
          | eq =>
              obtain rfl := Std.LawfulEqOrd.eq_of_compare first
              simp only [first, Ordering.eq_then] at after less
              refine inductionHypothesis after ?_ less (List.prefix_append start rest)
              simpa using other

end Text

namespace SettingsTree

open SettingsPath

variable {tree : SettingsTree} {start name value : Text} {entry : Text × Text}
  {found : List (Text × Option Text)}

/-- Whether the path of a setting has a beginning. -/
def hasBeginning (start : Text) (entry : Text × Text) : Bool :=
  start.isPrefixOf entry.1

theorem hasBeginning_iff : hasBeginning start entry = true ↔ start <+: entry.1 :=
  List.isPrefixOf_iff_prefix

/-- The settings from a beginning on, up to the first whose path does not have it. -/
def range (tree : SettingsTree) (start : Text) : SettingsTree :=
  (tree.dropWhile fun entry => compare entry.1 start == .lt).takeWhile (hasBeginning start)

/-- The children of a path, found by a scan of the settings from what stands before them. -/
def scan (tree : SettingsTree) (path : Text) : List SettingEntry :=
  let start := below (inner path)
  ((tree.range start).foldl (list start) []).map
    fun field => ⟨field.1, field.2.getD [], start ++ field.1⟩

theorem takeWhile_eq_filter (ordered : Value.IsOrdered tree)
    (after : ∀ entry ∈ tree, compare entry.1 start ≠ .lt) :
    tree.takeWhile (hasBeginning start) = tree.filter (hasBeginning start) := by
  induction tree with
  | nil => rfl
  | cons entry tree inductionHypothesis =>
      obtain ⟨later, orderedRest⟩ := List.pairwise_cons.mp ordered
      rw [List.forall_mem_cons] at after
      by_cases begins : hasBeginning start entry = true
      · rw [List.takeWhile_cons_of_pos begins, List.filter_cons_of_pos begins,
          inductionHypothesis orderedRest after.2]
      · rw [List.takeWhile_cons_of_neg begins, List.filter_cons_of_neg begins, eq_comm,
          List.filter_eq_nil_iff]
        intro next member
        rw [hasBeginning_iff] at begins ⊢
        exact Text.not_prefix_of_lt after.1 begins (later next member)

/-- The settings whose paths have a beginning stand side by side. -/
theorem range_eq_filter (ordered : Value.IsOrdered tree) (start : Text) :
    tree.range start = tree.filter (hasBeginning start) := by
  unfold range
  induction tree with
  | nil => rfl
  | cons entry tree inductionHypothesis =>
      obtain ⟨later, orderedRest⟩ := List.pairwise_cons.mp ordered
      by_cases before : compare entry.1 start = .lt
      · have other : ¬ hasBeginning start entry = true := by
          rw [hasBeginning_iff]
          exact fun begins => Text.compare_ne_lt_of_prefix begins before
        rw [List.dropWhile_cons_of_pos (by simp [before]), List.filter_cons_of_neg other]
        exact inductionHypothesis orderedRest
      · rw [List.dropWhile_cons_of_neg (by simp [before])]
        refine takeWhile_eq_filter ordered ?_
        rw [List.forall_mem_cons]
        refine ⟨before, fun next member less => before ?_⟩
        exact Std.TransCmp.lt_trans (later next member) less

/-- A setting whose path does not have the beginning is passed over. -/
theorem list_eq_self (other : ¬ hasBeginning start entry = true) :
    list start found entry = found := by
  have nothing : Text.dropPrefix? start entry.1 = none := by
    rw [Option.eq_none_iff_forall_ne_some]
    intro rest dropped
    rw [hasBeginning_iff] at other
    exact other ⟨rest, (Text.dropPrefix?_eq_some_iff.mp dropped).symm⟩
  rw [list, nothing]

/-- The scan finds all children of a path. -/
theorem children_eq_scan (ordered : Value.IsOrdered tree) (path : Text) :
    tree.children path = tree.scan path := by
  have passed : ∀ start found entry,
      (if hasBeginning start entry = true then list start found entry else found) =
        list start found entry := by
    intro start found entry
    split
    · rfl
    · exact (list_eq_self ‹_›).symm
  rw [children_eq, scan, range_eq_filter ordered, List.foldl_filter]
  simp only [passed]

theorem isOrdered_addChild (ordered : Value.IsOrdered found) (rest value : Text) :
    Value.IsOrdered (addChild found rest value) := by
  unfold addChild
  split
  · exact ordered.insertField
  · split
    · exact ordered
    · exact ordered.insertField

/-- Children are found in the order of their names, each once. -/
theorem isOrdered_foldl_list (tree : SettingsTree) (ordered : Value.IsOrdered found) :
    Value.IsOrdered (tree.foldl (list start) found) := by
  induction tree generalizing found with
  | nil => exact ordered
  | cons entry tree inductionHypothesis =>
      refine inductionHypothesis ?_
      unfold list
      split
      · exact isOrdered_addChild ordered _ _
      · exact ordered

/-- A child keeps its value unless a setting gives it another one. -/
theorem mem_list_of_mem
    (same : ∀ rest new, Text.dropPrefix? start entry.1 = some rest →
      child rest entry.2 = (name, some new) → new = value)
    (member : (name, some value) ∈ found) : (name, some value) ∈ list start found entry := by
  unfold list
  split
  case h_2 => exact member
  case h_1 rest dropped =>
    unfold addChild
    split
    case h_1 first cut =>
      by_cases equal : name = first
      · have own : child rest entry.2 = (name, some entry.2) := by simp [child, cut, equal]
        rw [equal, same rest entry.2 dropped own]
        exact Value.mem_insertField_self
      · exact Value.mem_insertField_of_ne equal member
    case h_2 first below cut =>
      split
      case isTrue => exact member
      case isFalse unknown =>
        refine Value.mem_insertField_of_ne ?_ member
        rintro rfl
        exact unknown (List.any_eq_true.mpr ⟨_, member, beq_self_eq_true _⟩)

theorem mem_foldl_list_of_mem
    (same : ∀ entry ∈ tree, ∀ rest new, Text.dropPrefix? start entry.1 = some rest →
      child rest entry.2 = (name, some new) → new = value)
    (member : (name, some value) ∈ found) :
    (name, some value) ∈ tree.foldl (list start) found := by
  induction tree generalizing found with
  | nil => exact member
  | cons entry tree inductionHypothesis =>
      rw [List.forall_mem_cons] at same
      exact inductionHypothesis same.2 (mem_list_of_mem same.1 member)

/-- A setting gives its value to the child that it is itself. -/
theorem mem_list_self {rest : Text} (dropped : Text.dropPrefix? start entry.1 = some rest)
    (own : child rest entry.2 = (name, some entry.2)) :
    (name, some entry.2) ∈ list start found entry := by
  simp only [list, dropped, addChild]
  split
  case h_1 first cut =>
    obtain rfl : first = name := by simpa [child, cut] using own
    exact Value.mem_insertField_self
  case h_2 first below cut => simp [child, cut] at own

/-- The children that are found with a value are those that have a setting of their own. -/
theorem mem_foldl_list_iff (ordered : Value.IsOrdered tree) :
    (name, some value) ∈ tree.foldl (list start) [] ↔
      '/' ∉ name ∧ (start ++ name, value) ∈ tree := by
  constructor
  · intro member
    obtain ⟨entry, inside, rest, dropped, made⟩ :=
      (mem_of_mem_foldl_list member).resolve_right (by simp)
    have key := Text.dropPrefix?_eq_some_iff.mp dropped
    rcases child_cases rest entry.2 with ⟨plain, own⟩ | ⟨first, more, _, _, own⟩
    · obtain ⟨rfl, rfl⟩ : name = rest ∧ value = entry.2 := by simpa [own] using made
      exact ⟨plain, key ▸ inside⟩
    · simp [own] at made
  · rintro ⟨plain, inside⟩
    have unique : ∀ entry ∈ tree, ∀ rest new, Text.dropPrefix? start entry.1 = some rest →
        child rest entry.2 = (name, some new) → new = value := by
      intro entry member rest new dropped made
      have key := Text.dropPrefix?_eq_some_iff.mp dropped
      rcases child_cases rest entry.2 with ⟨_, own⟩ | ⟨first, more, _, _, own⟩
      · obtain ⟨rfl, rfl⟩ : rest = name ∧ entry.2 = new := by simpa [own] using made
        exact congrArg Prod.snd (ordered.eq_of_mem member inside key)
      · simp [own] at made
    have own : child name value = (name, some value) := by
      simp [child, Text.cut_of_not_mem plain]
    obtain ⟨before, after, rfl⟩ := List.append_of_mem inside
    rw [List.foldl_append, List.foldl_cons]
    refine mem_foldl_list_of_mem (fun entry member => unique entry (by simp [member])) ?_
    exact mem_list_self (Text.dropPrefix?_eq_some_iff.mpr rfl) own

/-- A path is there: a setting stands under it, or goes on from it. -/
def HasPath (tree : SettingsTree) (path : Text) : Prop :=
  ∃ entry ∈ tree, entry.1 = path ∨ path ++ ['/'] <+: entry.1

/-- A path is listed with this value: its own, or the empty one if it is there without a value. -/
def Shows (tree : SettingsTree) (path value : Text) : Prop :=
  tree.HasPath path ∧ value = (tree.get? path).getD []

theorem mem_iff_get? (ordered : Value.IsOrdered tree) {path : Text} :
    (path, value) ∈ tree ↔ tree.get? path = some value := by
  rw [get?, ← ordered.insertField_eq_self_iff]
  refine ⟨ordered.insertField_eq_self, fun same => ?_⟩
  rw [← same]
  exact Value.mem_insertField_self

/-- What is found for a listed path are the segments that stand behind it. -/
theorem exists_mem_foldl_list_nil_iff :
    (∃ value?, (name, value?) ∈ tree.foldl (list start) []) ↔
      '/' ∉ name ∧ tree.HasPath (start ++ name) := by
  simp only [exists_mem_foldl_list_iff, List.not_mem_nil, exists_const, or_false]
  constructor
  · rintro ⟨entry, inside, rest, dropped, rfl⟩
    have key := Text.dropPrefix?_eq_some_iff.mp dropped
    rcases child_cases rest entry.2 with ⟨plain, own⟩ | ⟨first, more, plain, rfl, own⟩
    · exact own ▸ ⟨plain, entry, inside, .inl key⟩
    · exact own ▸ ⟨plain, entry, inside, .inr ⟨more, by simp [key]⟩⟩
  · rintro ⟨plain, entry, inside, key | ⟨more, key⟩⟩
    · refine ⟨entry, inside, name, Text.dropPrefix?_eq_some_iff.mpr key, ?_⟩
      simp [child, Text.cut_of_not_mem plain]
    · refine ⟨entry, inside, name ++ '/' :: more, Text.dropPrefix?_eq_some_iff.mpr ?_, ?_⟩
      · simp [← key]
      · simp [child, Text.cut_append_cons plain]

/-- What is found for a child is the value of its own setting. -/
theorem value?_eq_of_mem_foldl_list (ordered : Value.IsOrdered tree)
    {field : Text × Option Text} (found : field ∈ tree.foldl (list start) []) :
    field.2 = tree.get? (start ++ field.1) := by
  have plain := (exists_mem_foldl_list_nil_iff.mp ⟨field.2, found⟩).1
  refine Option.ext fun value => ?_
  have listed : (field.1, some value) ∈ tree.foldl (list start) [] ↔
      tree.get? (start ++ field.1) = some value := by
    rw [mem_foldl_list_iff ordered, and_iff_right plain, mem_iff_get? ordered]
  rw [← listed]
  constructor
  · intro own
    rwa [← own]
  · intro member
    have orderedFound : Value.IsOrdered (tree.foldl (list start) []) :=
      isOrdered_foldl_list tree List.Pairwise.nil
    exact congrArg Prod.snd (orderedFound.eq_of_mem found member rfl)

/-- What is listed under a path are the paths that are there one segment further. -/
theorem mem_children_iff (ordered : Value.IsOrdered tree) {path : Text} {entry : SettingEntry} :
    entry ∈ tree.children path ↔
      '/' ∉ entry.name ∧ entry.path = below (inner path) ++ entry.name ∧
        tree.Shows entry.path entry.value := by
  rw [children_eq, List.mem_map]
  constructor
  · rintro ⟨field, found, rfl⟩
    have there := exists_mem_foldl_list_nil_iff.mp ⟨field.2, found⟩
    exact ⟨there.1, rfl, there.2, by rw [value?_eq_of_mem_foldl_list ordered found]⟩
  · obtain ⟨name, value, place⟩ := entry
    rintro ⟨plain, located, there, valued⟩
    obtain rfl : place = below (inner path) ++ name := located
    obtain ⟨value?, found⟩ := exists_mem_foldl_list_nil_iff.mpr ⟨plain, there⟩
    have own : value? = tree.get? (below (inner path) ++ name) :=
      value?_eq_of_mem_foldl_list ordered found
    exact ⟨_, found, by rw [own]; exact congrArg (SettingEntry.mk name · _) valued.symm⟩

theorem ascending_children (tree : SettingsTree) (path : Text) :
    (tree.children path).Pairwise fun entry later => compare entry.name later.name = .lt := by
  rw [children_eq, List.pairwise_map]
  exact isOrdered_foldl_list tree List.Pairwise.nil

/-- Two trees list the same under a path if they show the same one segment further. -/
theorem children_eq_iff {other : SettingsTree} (ordered : Value.IsOrdered tree)
    (orderedOther : Value.IsOrdered other) {path : Text} :
    tree.children path = other.children path ↔
      ∀ name value, '/' ∉ name → (tree.Shows (below (inner path) ++ name) value ↔
        other.Shows (below (inner path) ++ name) value) := by
  constructor
  · intro same name value plain
    have listed : ∀ {tree : SettingsTree}, Value.IsOrdered tree →
        (tree.Shows (below (inner path) ++ name) value ↔
          ⟨name, value, below (inner path) ++ name⟩ ∈ tree.children path) := fun ordered => by
      rw [mem_children_iff ordered]
      exact ⟨fun shows => ⟨plain, rfl, shows⟩, fun member => member.2.2⟩
    rw [listed ordered, listed orderedOther, same]
  · intro same
    have irrefl : Std.Irrefl fun entry later : SettingEntry =>
        compare entry.name later.name = .lt := ⟨fun entry less => by simp at less⟩
    have antisymm : Std.Antisymm fun entry later : SettingEntry =>
        compare entry.name later.name = .lt :=
      ⟨fun entry later less greater => absurd (Std.TransCmp.lt_trans less greater) (by simp)⟩
    refine (ascending_children tree path).eq_of_mem_iff (ascending_children other path) ?_
    intro entry
    rw [mem_children_iff ordered, mem_children_iff orderedOther]
    refine and_congr_right fun plain => and_congr_right fun place => ?_
    rw [place]
    exact same entry.name entry.value plain

end SettingsTree

end CommandLink
