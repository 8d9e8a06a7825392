import CommandLink.Proofs.Settings.Files
import CommandLink.Proofs.Settings.Listing
import CommandLink.Proofs.Text.ByteOrder
import Mathlib.Data.Set.Finite.Basic

/-!
# Settings as a map

To those who call it, a store in memory is a finite map from lists of segments to values, whatever
texts it is given as paths (`shown_performAll`): it refuses malformed paths and nothing else, changes
its settings as the map changes, and lists the next segments below a path in the order of their
octets.
-/

namespace CommandLink

open SettingsPath

/-- The segments under which a setting can stand. -/
abbrev SettingsKey := {names : List Text // AreSegments names}

/-- The segments of a path that is not malformed. -/
def SettingsKey.ofPath (path : Text) (formed : ¬ IsMalformed path) : SettingsKey :=
  ⟨segments (inner path), areSegments_of_not_isMalformed formed⟩

@[simp] theorem SettingsKey.ofSegments_ofPath (path : Text) (formed : ¬ IsMalformed path) :
    ofSegments (ofPath path formed).1 = inner path :=
  ofSegments_segments (inner path)

namespace SettingsRequest

/-- The path that a request is about. -/
def path : SettingsRequest → Text
  | .update path _ => path
  | .remove path => path

variable {tree : SettingsTree}

theorem perform_memory_of_isMalformed (request : SettingsRequest)
    (malformed : IsMalformed request.path) (tree : SettingsTree) :
    request.perform .memory tree = (.error (.invalidPath request.path), tree) := by
  cases request <;>
    simp_all only [perform, SettingsRequest.path, SettingsStore.memory, validate_eq, if_true]

theorem perform_memory_update {path value : Text} (formed : ¬ IsMalformed path) :
    (SettingsRequest.update path value).perform .memory tree =
      (.ok (), tree.insert (ofSegments (SettingsKey.ofPath path formed).1) value) := by
  simp [perform, SettingsStore.memory, validate_eq, formed]

theorem perform_memory_remove {path : Text} (formed : ¬ IsMalformed path) :
    (SettingsRequest.remove path).perform .memory tree =
      (.ok (), tree.removeSubtree (ofSegments (SettingsKey.ofPath path formed).1)) := by
  simp [perform, SettingsStore.memory, validate_eq, formed]

theorem perform_memory_of_not_isMalformed (request : SettingsRequest)
    (formed : ¬ IsMalformed request.path) (tree : SettingsTree) :
    (request.perform .memory tree).1 = .ok () := by
  cases request
  case update => exact congrArg Prod.fst (perform_memory_update formed)
  case remove => exact congrArg Prod.fst (perform_memory_remove formed)

end SettingsRequest

/-- A finite map from segments to values. -/
structure SettingsMap where
  value? : SettingsKey → Option Text
  finite : {key | (value? key).isSome = true}.Finite

namespace SettingsMap

/-- The map without values. -/
def empty : SettingsMap :=
  ⟨fun _ => none, by simp⟩

/-- Set one value. -/
def set (map : SettingsMap) (key : SettingsKey) (value : Text) : SettingsMap where
  value? other := if other = key then some value else map.value? other
  finite := by
    refine (map.finite.insert key).subset fun other held => ?_
    by_cases same : other = key
    · exact .inl same
    · exact .inr (by simpa [same] using held)

/-- Remove the value at a key and all values whose keys go on from it. -/
def clear (map : SettingsMap) (key : SettingsKey) : SettingsMap where
  value? other := if key.1 <+: other.1 then none else map.value? other
  finite := by
    refine map.finite.subset fun other held => ?_
    by_cases goesOn : key.1 <+: other.1 <;> simp [goesOn] at held
    exact held

/-- What a request does to a map. One with a malformed path does nothing. -/
def perform (map : SettingsMap) : SettingsRequest → SettingsMap
  | .update path value =>
      if formed : ¬ IsMalformed path then map.set (.ofPath path formed) value else map
  | .remove path => if formed : ¬ IsMalformed path then map.clear (.ofPath path formed) else map

/-- The map after requests, if there were no values before. -/
def ofRequests (requests : List SettingsRequest) : SettingsMap :=
  requests.foldl perform empty

theorem perform_of_isMalformed {map : SettingsMap} {request : SettingsRequest}
    (malformed : IsMalformed request.path) : map.perform request = map := by
  cases request <;> exact dif_neg (not_not.mpr malformed)

/-- The entries are the children that a map has under some segments. -/
structure Lists (map : SettingsMap) (names : List Text) (entries : List SettingEntry) : Prop where
  /-- They are in the order of the octets of their names, so that no name is listed twice. -/
  ascending : entries.Pairwise fun entry later => Utf8.encode entry.name < Utf8.encode later.name
  /-- They are named by the segments that follow in the keys of values. -/
  next : ∀ name, (∃ entry ∈ entries, entry.name = name) ↔
    ∃ key : SettingsKey, (map.value? key).isSome = true ∧ names ++ [name] <+: key.1
  /-- Each has the value at just its key, if there is one, and its whole path. -/
  child : ∀ entry ∈ entries, ∃ key : SettingsKey, key.1 = names ++ [entry.name] ∧
    entry.value = (map.value? key).getD [] ∧ entry.path = ofSegments key.1

theorem Lists.subset {map : SettingsMap} {names : List Text} {entries others : List SettingEntry}
    (lists : map.Lists names entries) (listsOthers : map.Lists names others) :
    entries ⊆ others := by
  intro entry member
  obtain ⟨other, memberOther, same⟩ :=
    (listsOthers.next entry.name).mpr ((lists.next entry.name).mp ⟨entry, member, rfl⟩)
  obtain ⟨key, place, value, path⟩ := lists.child entry member
  obtain ⟨keyOther, placeOther, valueOther, pathOther⟩ := listsOthers.child other memberOther
  obtain rfl : keyOther = key := Subtype.ext (by rw [placeOther, place, same])
  have equal : entry = other := by
    cases entry
    cases other
    simp_all
  exact equal ▸ memberOther

/-- A map has one listing under some segments. -/
theorem Lists.unique {map : SettingsMap} {names : List Text} {entries others : List SettingEntry}
    (lists : map.Lists names entries) (listsOthers : map.Lists names others) :
    entries = others := by
  have irrefl : Std.Irrefl fun entry later : SettingEntry =>
      Utf8.encode entry.name < Utf8.encode later.name := ⟨fun _ => List.lt_irrefl _⟩
  have antisymm : Std.Antisymm fun entry later : SettingEntry =>
      Utf8.encode entry.name < Utf8.encode later.name :=
    ⟨fun _ _ less greater => absurd greater (List.lt_asymm less)⟩
  refine lists.ascending.eq_of_mem_iff listsOthers.ascending fun entry => ?_
  exact ⟨fun member => lists.subset listsOthers member,
    fun member => listsOthers.subset lists member⟩

/-- Settings in order of their paths are those of a map. -/
structure Represents (map : SettingsMap) (tree : SettingsTree) : Prop where
  ordered : Value.IsOrdered tree
  proper : tree.IsProper
  holds : ∀ (key : SettingsKey) value,
    (ofSegments key.1, value) ∈ tree ↔ map.value? key = some value

variable {map : SettingsMap} {tree : SettingsTree}

theorem represents_empty : empty.Represents [] where
  ordered := List.Pairwise.nil
  proper := by simp [SettingsTree.IsProper]
  holds := by simp [empty]

theorem Represents.set (represents : map.Represents tree) (key : SettingsKey) (value : Text) :
    (map.set key value).Represents (tree.insert (ofSegments key.1) value) where
  ordered := represents.ordered.insertField
  proper := by
    intro entry member
    rcases Value.mem_of_mem_insertField member with rfl | old
    · exact ⟨key.1, key.2, rfl⟩
    · exact represents.proper entry old
  holds := by
    intro other found
    rw [SettingsTree.insert, represents.ordered.mem_insertField_iff, represents.holds,
      Prod.mk.injEq, ofSegments_inj other.2 key.2, Ne, ofSegments_inj other.2 key.2,
      ← Subtype.ext_iff]
    by_cases same : other = key
    · simp [SettingsMap.set, same, eq_comm]
    · simp [SettingsMap.set, same]

theorem Represents.clear (represents : map.Represents tree) (key : SettingsKey) :
    (map.clear key).Represents (tree.removeSubtree (ofSegments key.1)) where
  ordered := represents.ordered.filter _
  proper := fun entry member => represents.proper entry (List.mem_of_mem_filter member)
  holds := by
    intro other found
    rw [SettingsTree.mem_removeSubtree_iff key.2 other.2, represents.holds]
    by_cases goesOn : key.1 <+: other.1 <;> simp [SettingsMap.clear, goesOn]

/-- What is found for a child is the value at just its key. -/
theorem Represents.value?_eq_of_found (represents : map.Represents tree) {path : Text}
    {field : Text × Option Text}
    (found : field ∈ tree.foldl (SettingsTree.list (SettingsTree.below (inner path))) [])
    (proper : AreSegments (parents path ++ [field.1])) :
    field.2 = map.value? ⟨parents path ++ [field.1], proper⟩ := by
  have key : SettingsTree.below (inner path) ++ field.1 = ofSegments (parents path ++ [field.1]) := by
    rw [← below_inner_append path (List.cons_ne_nil _ _), ofSegments_singleton]
  refine Option.ext fun value => ?_
  rw [SettingsTree.value?_eq_of_mem_foldl_list represents.ordered found, key,
    ← SettingsTree.mem_iff_get? represents.ordered]
  exact represents.holds ⟨_, proper⟩ value

/-- The children of a path are those that the map has under its segments. -/
theorem Represents.lists (represents : map.Represents tree) (path : Text) :
    map.Lists (parents path) (tree.children path) where
  ascending := by
    rw [SettingsTree.children_eq, List.pairwise_map]
    exact (SettingsTree.isOrdered_foldl_list tree List.Pairwise.nil).imp Utf8.encode_lt_encode
  next := by
    intro name
    rw [SettingsTree.exists_mem_children_parents_iff represents.proper]
    constructor
    · rintro ⟨more, value, proper, inside⟩
      have held := (represents.holds ⟨_, proper⟩ value).mp inside
      exact ⟨⟨_, proper⟩, by simp [held], more, by simp⟩
    · rintro ⟨⟨_, proper⟩, some, more, rfl⟩
      obtain ⟨value, held⟩ := Option.isSome_iff_exists.mp some
      rw [List.append_assoc, List.singleton_append] at proper
      refine ⟨more, value, proper, ?_⟩
      simpa using (represents.holds _ value).mpr held
  child := by
    rw [SettingsTree.children_eq]
    intro entry member
    obtain ⟨field, found, rfl⟩ := List.mem_map.mp member
    obtain ⟨more, _, properMore, _, _⟩ :=
      SettingsTree.exists_of_mem_foldl_list represents.proper found
    have proper : AreSegments (parents path ++ [field.1]) :=
      properMore.of_prefix (by simp) ⟨more, by simp⟩
    refine ⟨⟨_, proper⟩, rfl, ?_, ?_⟩
    · rw [represents.value?_eq_of_found found proper]
    · rw [← below_inner_append path (by simp), ofSegments_singleton]

/-- A request does to settings what it does to the map. -/
theorem Represents.perform (represents : map.Represents tree) (request : SettingsRequest) :
    (map.perform request).Represents (request.perform .memory tree).2 := by
  by_cases malformed : IsMalformed request.path
  · rw [request.perform_memory_of_isMalformed malformed, perform_of_isMalformed malformed]
    exact represents
  · cases request with
    | update path value =>
        have formed : ¬ IsMalformed path := malformed
        rw [SettingsRequest.perform_memory_update formed, SettingsMap.perform, dif_pos formed]
        exact represents.set _ value
    | remove path =>
        have formed : ¬ IsMalformed path := malformed
        rw [SettingsRequest.perform_memory_remove formed, SettingsMap.perform, dif_pos formed]
        exact represents.clear _

theorem represents_performAll (requests : List SettingsRequest) :
    (ofRequests requests).Represents (SettingsRequest.performAll .memory requests []) := by
  suffices run : ∀ map tree, Represents map tree →
      (requests.foldl SettingsMap.perform map).Represents
        (SettingsRequest.performAll .memory requests tree) from run empty [] represents_empty
  induction requests with
  | nil => exact fun _ _ represents => represents
  | cons request requests inductionHypothesis =>
      exact fun _ _ represents => inductionHypothesis _ _ (represents.perform request)

/-- What those who call a store in memory see of its settings is a map. -/
structure Shown (map : SettingsMap) (tree : SettingsTree) : Prop where
  /-- The settings are those of the map. -/
  represents : map.Represents tree
  /-- Exactly the requests with malformed paths are refused, and they change nothing. -/
  refused : ∀ request : SettingsRequest, IsMalformed request.path ↔
    request.perform .memory tree = (.error (.invalidPath request.path), tree)
  /-- All others are granted. -/
  granted : ∀ request : SettingsRequest, ¬ IsMalformed request.path →
    (request.perform .memory tree).1 = .ok ()
  /-- The settings after a request are those of the map after it. -/
  changed : ∀ request : SettingsRequest,
    (map.perform request).Represents (request.perform .memory tree).2
  /-- Any path can be listed. The scan of the settings finds the one listing of the map there. -/
  listed : ∀ path, SettingsStore.memory.loadAll path tree = .ok (tree.scan path) ∧
    ∀ entries, map.Lists (parents path) entries ↔ entries = tree.scan path

/-- Whatever requests a store in memory has performed, it shows the map after them. Listings in
between make no difference: they have no state to change. -/
theorem shown_performAll (requests : List SettingsRequest) :
    (ofRequests requests).Shown (SettingsRequest.performAll .memory requests []) where
  represents := represents_performAll requests
  refused := by
    intro request
    refine ⟨fun malformed => request.perform_memory_of_isMalformed malformed _, fun refused => ?_⟩
    by_contra formed
    have granted := request.perform_memory_of_not_isMalformed formed
      (SettingsRequest.performAll .memory requests [])
    rw [refused] at granted
    cases granted
  granted := fun request formed => request.perform_memory_of_not_isMalformed formed _
  changed := (represents_performAll requests).perform
  listed := by
    intro path
    have represents := represents_performAll requests
    have found := SettingsTree.children_eq_scan represents.ordered path
    have lists : (ofRequests requests).Lists (parents path) _ := found ▸ represents.lists path
    refine ⟨congrArg Except.ok found, fun entries => ⟨fun other => other.unique lists, ?_⟩⟩
    rintro rfl
    exact lists

/-- A segment that goes on with a character before the slash is another segment, not a child. -/
example :
    (SettingsRequest.performAll .memory
      [.update "a/b/c" "1", .update "/a-b" "2", .update "a/b/" "3", .update "a//b" "4"] []).scan "a" =
      [⟨"b", "3", "a/b"⟩] := by
  decide

end SettingsMap

end CommandLink
