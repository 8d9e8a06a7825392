import CommandLink.Proofs.Text.Trimming
import CommandLink.Settings.Tree
import Mathlib.Data.List.Basic

/-!
# Paths and their segments

A path stands for the list of its segments, none of which is empty or holds a slash, and so does the
beginning of a path for the beginning of that list (`dropPrefix?_below_ofSegments`).
-/

namespace CommandLink

/-- What is left of a text after a beginning. -/
theorem Text.dropPrefix?_eq_some_iff {start text rest : Text} :
    Text.dropPrefix? start text = some rest ↔ text = start ++ rest := by
  induction start generalizing text with
  | nil => simp [Text.dropPrefix?]
  | cons c start inductionHypothesis =>
      cases text with
      | nil => simp [Text.dropPrefix?]
      | cons d text =>
          by_cases same : c = d
          · simp [Text.dropPrefix?, same, inductionHypothesis]
          · simp [Text.dropPrefix?, same, Ne.symm same]

namespace SettingsPath

/-- Whether a text can be a segment of a path. -/
structure IsSegment (name : Text) : Prop where
  filled : name ≠ []
  plain : '/' ∉ name

/-- Whether texts are the segments of a path. -/
structure AreSegments (names : List Text) : Prop where
  filled : names ≠ []
  segments : ∀ name ∈ names, IsSegment name

/-- The path with these segments. -/
def ofSegments (names : List Text) : Text :=
  Text.join ['/'] names

theorem ofSegments_singleton (name : Text) : ofSegments [name] = name := by
  simp [ofSegments, Text.join]

theorem ofSegments_cons (name : Text) {names : List Text} (filled : names ≠ []) :
    ofSegments (name :: names) = name ++ '/' :: ofSegments names := by
  obtain ⟨second, rest, rfl⟩ := List.exists_cons_of_ne_nil filled
  simp [ofSegments, Text.join, List.intercalate_cons_cons]

theorem ofSegments_append {names more : List Text} (filled : names ≠ []) (filledMore : more ≠ []) :
    ofSegments (names ++ more) = ofSegments names ++ '/' :: ofSegments more := by
  induction names with
  | nil => exact absurd rfl filled
  | cons name names inductionHypothesis =>
      by_cases last : names = []
      · subst last
        rw [ofSegments_singleton]
        exact ofSegments_cons name filledMore
      · rw [List.cons_append, ofSegments_cons name (by simp [last]), ofSegments_cons name last,
          inductionHypothesis last, List.append_assoc, List.cons_append]

@[simp] theorem ofSegments_segments (path : Text) : ofSegments (segments path) = path :=
  List.intercalate_splitOn '/'

theorem segments_ne_nil (path : Text) : segments path ≠ [] :=
  List.splitOn_ne_nil '/' path

/-- No segment of a path holds a slash. -/
theorem notMem_of_mem_segments {path name : Text} (member : name ∈ segments path) : '/' ∉ name :=
  (Text.of_mem_splitOn member).1

/-- A path has the segments that it was made of. -/
theorem segments_ofSegments {names : List Text} (proper : AreSegments names) :
    segments (ofSegments names) = names :=
  List.splitOn_intercalate '/' (fun name member => (proper.segments name member).plain)
    proper.filled

/-- There are no slashes around a path. -/
theorem inner_ofSegments {names : List Text} (proper : AreSegments names) :
    inner (ofSegments names) = ofSegments names := by
  have plain : ∀ name ∈ names, ∀ c ∈ name, (c == '/') = false := fun name member c inside => by
    have other : c ≠ '/' := fun same => (proper.segments name member).plain (same ▸ inside)
    simpa using other
  refine Text.strip_eq_self ?_ ?_
  · obtain ⟨name, rest, rfl⟩ := List.exists_cons_of_ne_nil proper.filled
    have filled : name ≠ [] := (proper.segments name (by simp)).filled
    intro c head
    refine plain name (by simp) c (List.mem_of_mem_head? ?_)
    by_cases last : rest = []
    · rwa [last, ofSegments_singleton] at head
    · rwa [ofSegments_cons name last, List.head?_append_of_ne_nil _ filled] at head
  · obtain ⟨front, name, rfl⟩ := (List.eq_nil_or_concat names).resolve_left proper.filled
    rw [List.concat_eq_append] at *
    have filled : name ≠ [] := (proper.segments name (by simp)).filled
    intro c last
    refine plain name (by simp) c (List.mem_of_getLast? ?_)
    by_cases alone : front = []
    · rwa [alone, List.nil_append, ofSegments_singleton] at last
    · rwa [ofSegments_append alone (by simp), ofSegments_singleton,
        List.getLast?_append_of_ne_nil _ (by simp), List.getLast?_cons_of_ne_nil filled] at last

/-- A path is a path. -/
theorem validate_ofSegments {names : List Text} (proper : AreSegments names) :
    validate (ofSegments names) = .ok (ofSegments names) := by
  have filled : (segments (ofSegments names)).any (·.isEmpty) = false := by
    rw [segments_ofSegments proper]
    simpa using fun name member => (proper.segments name member).filled
  rw [validate, inner_ofSegments proper, filled]
  rfl

/-- A path that names no setting: nothing is left of it without the slashes around it, or one of its
segments is empty. -/
def IsMalformed (path : Text) : Prop :=
  inner path = [] ∨ [] ∈ segments (inner path)

instance : DecidablePred IsMalformed :=
  fun path => inferInstanceAs (Decidable (inner path = [] ∨ [] ∈ segments (inner path)))

theorem isMalformed_iff_mem {path : Text} : IsMalformed path ↔ [] ∈ segments (inner path) := by
  refine ⟨?_, .inr⟩
  rintro (empty | member)
  · rw [empty, segments, List.splitOn_nil]
    exact List.mem_singleton_self []
  · exact member

/-- A path that is not malformed names the setting under its segments. -/
theorem areSegments_of_not_isMalformed {path : Text} (formed : ¬ IsMalformed path) :
    AreSegments (segments (inner path)) := by
  refine ⟨segments_ne_nil _, fun name member => ⟨?_, notMem_of_mem_segments member⟩⟩
  rintro rfl
  exact formed (.inr member)

/-- Exactly the malformed paths are refused. -/
theorem validate_eq (path : Text) :
    validate path =
      if IsMalformed path then .error (.invalidPath path) else .ok (inner path) := by
  have empty : (segments (inner path)).any (·.isEmpty) = true ↔ IsMalformed path := by
    simp [isMalformed_iff_mem]
  simp only [validate, empty]

/-- Texts are joined to a path exactly if all of them can be segments. -/
theorem join_eq_ok_iff {names : List Text} {path : Text} :
    join names = .ok path ↔ (∀ name ∈ names, IsSegment name) ∧ path = ofSegments names := by
  have proper : (names.any fun name => name.isEmpty || name.contains '/') = false ↔
      ∀ name ∈ names, IsSegment name := by
    simp only [List.any_eq_false, Bool.or_eq_true, List.isEmpty_iff, List.contains_iff_mem, not_or]
    exact forall₂_congr fun name _ => ⟨fun both => ⟨both.1, both.2⟩, fun both => ⟨both.1, both.2⟩⟩
  rw [← proper, join]
  cases names.any fun name => name.isEmpty || name.contains '/'
  · simp [ofSegments, eq_comm]
  · simp

/-- The segments that go on from others. -/
theorem AreSegments.of_append {names more : List Text} (proper : AreSegments (names ++ more))
    (filled : more ≠ []) : AreSegments more :=
  ⟨filled, fun name member => proper.segments name (List.mem_append_right names member)⟩

/-- The segments that others go on from. -/
theorem AreSegments.of_prefix {names keys : List Text} (proper : AreSegments keys)
    (filled : names ≠ []) (begins : names <+: keys) : AreSegments names :=
  ⟨filled, fun name member => proper.segments name (begins.subset member)⟩

theorem ofSegments_ne_nil {names : List Text} (proper : AreSegments names) :
    ofSegments names ≠ [] := by
  intro empty
  have only := segments_ofSegments proper
  rw [empty] at only
  exact (proper.segments [] (only ▸ List.mem_singleton_self [])).filled rfl

theorem below_ofSegments {names : List Text} (proper : AreSegments names) :
    SettingsTree.below (ofSegments names) = ofSegments names ++ ['/'] := by
  simp [SettingsTree.below, ofSegments_ne_nil proper]

/-- The segments above what is listed under a path: none if nothing is left of the path without the
slashes around it. Any of them may be empty. -/
def parents (path : Text) : List Text :=
  if inner path = [] then [] else segments (inner path)

theorem parents_ofSegments {names : List Text} (proper : AreSegments names) :
    parents (ofSegments names) = names := by
  rw [parents, inner_ofSegments proper, if_neg (ofSegments_ne_nil proper),
    segments_ofSegments proper]

/-- What is below a listed path begins with the segments above it. -/
theorem below_inner_append (path : Text) {names : List Text} (filled : names ≠ []) :
    SettingsTree.below (inner path) ++ ofSegments names = ofSegments (parents path ++ names) := by
  unfold SettingsTree.below parents
  by_cases root : inner path = []
  · simp [root]
  · rw [if_neg root, if_neg (by simpa using root), ofSegments_append (segments_ne_nil _) filled,
      ofSegments_segments, List.append_assoc, List.singleton_append]

/-- A path stands below a listed one exactly if its segments go on from those above. -/
theorem dropPrefix?_below_inner (path : Text) {keys : List Text} (properKeys : AreSegments keys)
    {rest : Text} :
    Text.dropPrefix? (SettingsTree.below (inner path)) (ofSegments keys) = some rest ↔
      ∃ more, more ≠ [] ∧ keys = parents path ++ more ∧ rest = ofSegments more := by
  rw [Text.dropPrefix?_eq_some_iff]
  constructor
  · intro same
    refine ⟨segments rest, segments_ne_nil rest, ?_, (ofSegments_segments rest).symm⟩
    rw [← segments_ofSegments properKeys, same]
    unfold SettingsTree.below parents
    by_cases root : inner path = []
    · simp [root]
    · rw [if_neg root, if_neg (by simpa using root), List.append_assoc, List.singleton_append]
      exact List.splitOn_append_cons_self (inner path) rest
  · rintro ⟨more, filled, rfl, rfl⟩
    exact (below_inner_append path filled).symm

/-- A path goes on from another one exactly if its segments do. -/
theorem dropPrefix?_below_ofSegments {names keys : List Text} (proper : AreSegments names)
    (properKeys : AreSegments keys) {rest : Text} :
    Text.dropPrefix? (SettingsTree.below (ofSegments names)) (ofSegments keys) = some rest ↔
      ∃ more, more ≠ [] ∧ keys = names ++ more ∧ rest = ofSegments more := by
  have listed := @dropPrefix?_below_inner (ofSegments names) keys properKeys rest
  rwa [inner_ofSegments proper, parents_ofSegments proper] at listed

/-- Cutting at the first slash cuts off the first segment. -/
theorem cut_ofSegments {name : Text} {more : List Text} (proper : AreSegments (name :: more)) :
    Text.cut '/' (ofSegments (name :: more)) =
      (name, if more = [] then none else some (ofSegments more)) := by
  have plain : '/' ∉ name := (proper.segments name (by simp)).plain
  by_cases last : more = []
  · rw [last, ofSegments_singleton, Text.cut_of_not_mem plain, if_pos rfl]
  · rw [ofSegments_cons name last, Text.cut_append_cons plain, if_neg last]

/-- Different segments make different paths. -/
theorem ofSegments_inj {names keys : List Text} (proper : AreSegments names)
    (properKeys : AreSegments keys) : ofSegments names = ofSegments keys ↔ names = keys := by
  refine ⟨fun same => ?_, congrArg ofSegments⟩
  rw [← segments_ofSegments proper, same, segments_ofSegments properKeys]

/-- A path is at or below another one exactly if its segments begin with those of the other. -/
theorem prefix_iff_of_ofSegments {names keys : List Text} (proper : AreSegments names)
    (properKeys : AreSegments keys) :
    names <+: keys ↔ ofSegments keys = ofSegments names ∨
      ofSegments names ++ ['/'] <+: ofSegments keys := by
  have below : ofSegments names ++ ['/'] <+: ofSegments keys ↔
      ∃ more, more ≠ [] ∧ keys = names ++ more := by
    constructor
    · rintro ⟨rest, goingOn⟩
      rw [← below_ofSegments proper, eq_comm, ← Text.dropPrefix?_eq_some_iff,
        dropPrefix?_below_ofSegments proper properKeys] at goingOn
      obtain ⟨more, filled, same, _⟩ := goingOn
      exact ⟨more, filled, same⟩
    · rintro ⟨more, filled, same⟩
      refine ⟨ofSegments more, ?_⟩
      rw [← below_ofSegments proper, eq_comm, ← Text.dropPrefix?_eq_some_iff]
      exact (dropPrefix?_below_ofSegments proper properKeys).mpr ⟨more, filled, same, rfl⟩
  rw [below, ofSegments_inj properKeys proper]
  constructor
  · rintro ⟨more, rfl⟩
    by_cases last : more = []
    · exact .inl (by rw [last, List.append_nil])
    · exact .inr ⟨more, last, rfl⟩
  · rintro (rfl | ⟨more, _, rfl⟩)
    · exact List.prefix_refl keys
    · exact List.prefix_append names more

end SettingsPath

end CommandLink
