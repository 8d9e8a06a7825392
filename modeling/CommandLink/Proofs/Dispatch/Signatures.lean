import CommandLink.Interpreter.Listing
import CommandLink.Proofs.Component.Walk
import CommandLink.Proofs.Line.Printing
import Mathlib.Data.List.Destutter
import Mathlib.Data.List.Count

/-!
# The listing of commands

The listing shows the signature of every visible operation below the path of its component, and
nothing else, in the order of small letters. The lines are put in order by their small letters alone,
which keeps lines that differ in letter case as they were registered, and then only neighbours are
compared. So a line stays once unless one that differs from it in letter case only comes between two
occurrences of it (`commands_lists`).
-/

namespace CommandLink

variable {σ : Type}

/-- Names below each other, as a path. -/
def dotted (names : List Text) : Text :=
  names.foldl qualify []

theorem dotted_concat (names : List Text) (name : Text) :
    dotted (names ++ [name]) = qualify (dotted names) name := by
  simp [dotted, List.foldl_append]

theorem notMem_qualify {c : Char} {path name : Text} (other : c ≠ '.') (absentPath : c ∉ path)
    (absentName : c ∉ name) : c ∉ qualify path name := by
  unfold qualify
  split
  · exact absentName
  · simp [absentPath, other, absentName]

theorem notMem_dotted {c : Char} {names : List Text} (other : c ≠ '.')
    (absent : ∀ name ∈ names, c ∉ name) : c ∉ dotted names := by
  induction names using List.reverseRecOn with
  | nil => exact List.not_mem_nil
  | append_singleton names name inductionHypothesis =>
      rw [List.forall_mem_append, List.forall_mem_singleton] at absent
      rw [dotted_concat]
      exact notMem_qualify other (inductionHypothesis absent.1) absent.2

namespace Interpreter

variable {lines kept : List Text} {line other : Text}

/-- Dropping repeats is what the library calls destuttering. -/
theorem dropRepeats_eq_destutter (lines : List Text) :
    dropRepeats lines = lines.destutter (· ≠ ·) := by
  induction lines with
  | nil => rfl
  | cons line rest inductionHypothesis =>
      cases rest with
      | nil => rfl
      | cons next rest =>
          rw [List.destutter_cons'] at inductionHypothesis
          rw [List.destutter_cons_cons, dropRepeats, inductionHypothesis]
          split
          case isTrue same => simp [same]
          case isFalse => simp

theorem dropRepeats_sublist (lines : List Text) : (dropRepeats lines).Sublist lines := by
  rw [dropRepeats_eq_destutter]
  exact List.destutter_sublist _ lines

theorem isChain_dropRepeats (lines : List Text) : (dropRepeats lines).IsChain (· ≠ ·) := by
  rw [dropRepeats_eq_destutter]
  exact List.isChain_destutter _ lines

/-- Of what repeats nothing next to each other, nothing is dropped. -/
theorem sublist_dropRepeats (chain : kept.IsChain (· ≠ ·)) (among : kept.Sublist lines) :
    kept.Sublist (dropRepeats lines) := by
  induction lines generalizing kept with
  | nil => exact among
  | cons line rest inductionHypothesis =>
      cases rest with
      | nil => exact among
      | cons next rest =>
          rw [dropRepeats]
          split
          case isTrue same =>
            subst same
            refine inductionHypothesis chain ?_
            -- If the first of two equal lines is taken, then what is taken next is another line.
            cases among with
            | cons _ later => exact later
            | cons_cons _ later =>
                cases later with
                | cons _ later => exact later.cons_cons _
                | cons_cons _ later => exact ((List.isChain_cons_cons.mp chain).1 rfl).elim
          case isFalse differ =>
            cases among with
            | cons _ later => exact (inductionHypothesis chain later).cons _
            | cons_cons _ later => exact (inductionHypothesis chain.tail later).cons_cons _

theorem mem_dropRepeats : line ∈ dropRepeats lines ↔ line ∈ lines := by
  refine ⟨fun member => (dropRepeats_sublist lines).subset member, fun member => ?_⟩
  exact List.singleton_sublist.mp
    (sublist_dropRepeats (List.isChain_singleton line) (List.singleton_sublist.mpr member))

/-- Something else stands between two occurrences of a line where neighbours differ. -/
theorem exists_between (chain : lines.IsChain (· ≠ ·)) (twice : [line, line].Sublist lines) :
    ∃ other, other ≠ line ∧ [line, other, line].Sublist lines := by
  induction lines with
  | nil => cases twice
  | cons first rest inductionHypothesis =>
      cases twice with
      | cons _ later =>
          obtain ⟨other, differ, between⟩ := inductionHypothesis chain.tail later
          exact ⟨other, differ, between.cons _⟩
      | cons_cons _ later =>
          cases rest with
          | nil => cases later
          | cons next rest =>
              have differ : line ≠ next := (List.isChain_cons_cons.mp chain).1
              have again : line ∈ rest := by
                simpa [differ] using List.singleton_sublist.mp later
              exact ⟨next, differ.symm,
                ((List.singleton_sublist.mpr again).cons_cons next).cons_cons line⟩

/-- A line that repeats itself is dropped each time but once, unless another one comes between. -/
theorem count_dropRepeats_eq_one_iff (member : line ∈ lines) :
    (dropRepeats lines).count line = 1 ↔
      ∀ other, [line, other, line].Sublist lines → other = line := by
  have once : 1 ≤ (dropRepeats lines).count line :=
    List.one_le_count_iff.mpr (mem_dropRepeats.mpr member)
  have twice : 2 ≤ (dropRepeats lines).count line ↔ [line, line].Sublist (dropRepeats lines) :=
    (List.replicate_sublist_iff (n := 2)).symm
  constructor
  · intro single other between
    by_contra differ
    have chain : [line, other, line].IsChain (· ≠ ·) := by simp [differ, Ne.symm differ]
    have stays := sublist_dropRepeats chain between
    have pair : [line, line].Sublist [line, other, line] :=
      ((List.Sublist.refl [line]).cons other).cons_cons line
    have := twice.mpr (pair.trans stays)
    omega
  · intro alone
    by_contra more
    obtain ⟨other, differ, between⟩ :=
      exists_between (isChain_dropRepeats lines) (twice.mp (by omega))
    exact differ (alone other (between.trans (dropRepeats_sublist lines)))

/-- Lines are put in the order of their small letters. -/
def precedes (left right : Text) : Bool :=
  (compare left.toSmall right.toSmall).isLE

theorem precedes_trans (left middle right : Text) (first : precedes left middle = true)
    (second : precedes middle right = true) : precedes left right = true :=
  Std.TransCmp.isLE_trans first second

theorem precedes_total (left right : Text) :
    (precedes left right || precedes right left) = true := by
  have swap : compare right.toSmall left.toSmall = (compare left.toSmall right.toSmall).swap :=
    Std.OrientedCmp.eq_swap
  rw [precedes, precedes, swap]
  cases compare left.toSmall right.toSmall <;> rfl

theorem precedes_of_same (same : line.toSmall = other.toSmall) : precedes line other = true := by
  rw [precedes, same, Std.ReflOrd.compare_self]
  rfl

theorem toSmall_eq_of_precedes (first : precedes line other = true)
    (second : precedes other line = true) : other.toSmall = line.toSmall :=
  (Std.LawfulEqOrd.eq_of_compare (Std.OrientedCmp.isLE_antisymm first second)).symm

/-- Lines that differ in letter case only are not put in another order. -/
theorem filter_mergeSort (lines : List Text) (small : Text) :
    (lines.mergeSort precedes).filter (·.toSmall = small) = lines.filter (·.toSmall = small) := by
  have level : (lines.filter (·.toSmall = small)).Pairwise fun left right =>
      precedes left right = true := by
    refine List.pairwise_filter.mpr (List.pairwise_of_forall_mem_list ?_)
    intro left _ right _ smallLeft smallRight
    rw [decide_eq_true_eq] at smallLeft smallRight
    exact precedes_of_same (smallLeft.trans smallRight.symm)
  have kept := List.sublist_mergeSort precedes_trans precedes_total level List.filter_sublist
  have keptSmall := kept.filter (·.toSmall = small)
  simp only [List.filter_filter, Bool.and_self] at keptSmall
  refine (keptSmall.eq_of_length ?_).symm
  exact ((List.mergeSort_perm lines precedes).filter _).length_eq.symm

/-- A line comes between two occurrences of another one when they are in order exactly if it does so
before and differs from it in letter case only. -/
theorem between_mergeSort_iff :
    [line, other, line].Sublist (lines.mergeSort precedes) ↔
      other.toSmall = line.toSmall ∧ [line, other, line].Sublist lines := by
  constructor
  · intro between
    have ordered := (List.pairwise_mergeSort precedes_trans precedes_total lines).sublist between
    simp only [List.pairwise_cons, List.forall_mem_cons] at ordered
    have same := toSmall_eq_of_precedes ordered.1.1 ordered.2.1.1
    have small := between.filter (·.toSmall = line.toSmall)
    rw [filter_mergeSort, List.filter_eq_self.mpr (by simp [same])] at small
    exact ⟨same, small.trans List.filter_sublist⟩
  · rintro ⟨same, between⟩
    refine List.sublist_mergeSort precedes_trans precedes_total ?_ between
    simp [precedes_of_same rfl, precedes_of_same same, precedes_of_same same.symm]

/-- A visible operation of a component that hangs behind a chain of names below a registered one. -/
inductive Offers (components : List (Component σ)) : List Text → Operation σ → Prop where
  | mk {root component : Component σ} {chain : List Text} {operation : Operation σ}
      (registered : root ∈ components) (below : root.Below chain component)
      (member : operation ∈ component.operations) (visible : operation.hidden = false) :
      Offers components chain operation

/-- The signatures of the visible operations, in the order in which components are visited. -/
def signatureLines (components : List (Component σ)) : List Text :=
  (Component.walk components).flatMap fun (path, component) => signatures path component

variable {components : List (Component σ)}

theorem commandLines_eq (components : List (Component σ)) :
    commandLines components = dropRepeats ((signatureLines components).mergeSort precedes) :=
  rfl

theorem mem_signatureLines_iff : line ∈ signatureLines components ↔
    ∃ chain operation, Offers components chain operation ∧
      line = dotted (chain ++ [operation.signature]) := by
  simp only [signatureLines, List.mem_flatMap, Prod.exists, Component.mem_walk_iff, signatures,
    List.mem_map, List.mem_filter, dotted_concat]
  constructor
  · rintro ⟨_, component, ⟨root, registered, chain, below, rfl⟩, operation, ⟨member, visible⟩, rfl⟩
    exact ⟨chain, operation, ⟨registered, below, member, by simpa using visible⟩, rfl⟩
  · rintro ⟨chain, operation, ⟨registered, below, member, visible⟩, rfl⟩
    exact ⟨_, _, ⟨_, registered, chain, below, rfl⟩, operation, ⟨member, by simp [visible]⟩, rfl⟩

/-- The listing has the lines of all that is offered. -/
theorem mem_commandLines_iff : line ∈ commandLines components ↔
    ∃ chain operation, Offers components chain operation ∧
      line = dotted (chain ++ [operation.signature]) := by
  rw [commandLines_eq, mem_dropRepeats, List.mem_mergeSort, mem_signatureLines_iff]

/-- Another line that differs from a line in letter case only comes between two occurrences of it. -/
def Parted (components : List (Component σ)) (line : Text) : Prop :=
  ∃ other, other ≠ line ∧ other.toSmall = line.toSmall ∧
    [line, other, line].Sublist (signatureLines components)

theorem count_commandLines_eq_one_iff (member : line ∈ commandLines components) :
    (commandLines components).count line = 1 ↔ ¬ Parted components line := by
  rw [commandLines_eq, mem_dropRepeats] at member
  rw [commandLines_eq, count_dropRepeats_eq_one_iff member]
  simp only [between_mergeSort_iff, Parted, not_exists, not_and]
  constructor
  · intro alone other differ same between
    exact differ (alone other ⟨same, between⟩)
  · rintro alone other ⟨same, between⟩
    by_contra differ
    exact alone other differ same between

/-- No name has a line break in it, nor has anything else that signatures show. -/
def Unbroken (components : List (Component σ)) : Prop :=
  ∀ entry ∈ Component.walk components, '\n' ∉ entry.2.name ∧
    ∀ operation ∈ entry.2.operations, '\n' ∉ operation.signature

theorem Unbroken.notMem (unbroken : Unbroken components) (member : line ∈ commandLines components) :
    '\n' ∉ line := by
  obtain ⟨chain, operation, ⟨registered, below, owned, _⟩, rfl⟩ := mem_commandLines_iff.mp member
  refine notMem_dotted (by decide) (List.forall_mem_append.mpr ⟨fun name inside => ?_, ?_⟩)
  · obtain ⟨_, inner, reached, rfl⟩ := below.exists_of_mem inside
    obtain ⟨entry, visited, rfl⟩ := reached.exists_entry registered
    exact (unbroken entry visited).1
  · obtain ⟨entry, visited, rfl⟩ := below.exists_entry registered
    rw [List.forall_mem_singleton]
    exact (unbroken entry visited).2 operation owned

/-- Where no name has a line break, the text of the listing is made of lines: the signatures of the
visible operations below their paths, no others, and in the order of their small letters. Each is there
once, except for one whose occurrences are parted by a line that differs from it in letter case only. -/
theorem commands_lists (interpreter : Interpreter σ) (unbroken : Unbroken interpreter.components) :
    let lines := commandLines interpreter.components
    (lines ≠ [] → interpreter.commands.splitOn '\n' = lines) ∧
      (lines = [] → interpreter.commands = []) ∧
      (∀ line, line ∈ lines ↔ ∃ chain operation, Offers interpreter.components chain operation ∧
        line = dotted (chain ++ [operation.signature])) ∧
      (lines.Pairwise fun left right => (compare left.toSmall right.toSmall).isLE = true) ∧
      (∀ line ∈ lines, lines.count line = 1 ↔ ¬ Parted interpreter.components line) := by
  intro lines
  refine ⟨fun filled => ?_, fun empty => ?_, fun _ => mem_commandLines_iff, ?_,
    fun _ => count_commandLines_eq_one_iff⟩
  · exact List.splitOn_intercalate '\n' (fun line member => unbroken.notMem member) filled
  · rw [commands, show commandLines interpreter.components = [] from empty]
    rfl
  · exact (List.pairwise_mergeSort precedes_trans precedes_total _).sublist (dropRepeats_sublist _)

/-- An operation that does nothing, for a listing. -/
def listedAs (name : Text) (parameters : List Parameter := []) (hidden : Bool := false) :
    Operation Unit :=
  { name, parameters, hidden, handler := fun _ _ state => (.ok .null, state) }

/-- Two cameras that take pictures. The first has a lens and an operation that is not listed. -/
def cameras : Interpreter Unit where
  components :=
    [{ identity := 0
       name := "Port"
       operations := [listedAs "Snap", listedAs "Debug" [] true]
       children :=
        [{ identity := 1
           name := "Lens"
           operations := [listedAs "Focus" [⟨"distance", .float⟩]] }] },
      { identity := 2, name := "Starboard", operations := [listedAs "Snap"] }]

theorem cameras_shallow :
    ∀ camera ∈ cameras.components, ∀ lens ∈ camera.children, lens.children = [] := by
  simp [cameras]

/-- Both cameras are listed by one line, and the lens below its name. -/
theorem commands_lists_cameras :
    Unbroken cameras.components ∧
      (commandLines cameras.components).count ("Snap" : Text) = 1 ∧
      "Lens.Focus: Float distance".toList ∈ commandLines cameras.components ∧
      "Debug".toList ∉ commandLines cameras.components := by
  have walked := Component.walk_of_shallow cameras_shallow
  have unbroken : Unbroken cameras.components := by
    rw [Unbroken, walked]
    decide
  have signed : signatureLines cameras.components =
      (["Snap", "Lens.Focus: Float distance", "Snap"] : List Text) := by
    rw [signatureLines, walked]
    rfl
  have member (line : Text) :
      line ∈ commandLines cameras.components ↔ line ∈ signatureLines cameras.components :=
    mem_commandLines_iff.trans mem_signatureLines_iff.symm
  obtain ⟨_, _, _, _, once⟩ := commands_lists cameras unbroken
  have snap : "Snap".toList ∈ commandLines cameras.components := by
    rw [member, signed]
    exact List.mem_cons_self
  refine ⟨unbroken, (once _ snap).mpr ?_, ?_, ?_⟩
  · rintro ⟨other, differ, same, between⟩
    rw [signed] at between
    have listed : other ∈ (["Snap", "Lens.Focus: Float distance", "Snap"] : List Text) :=
      between.subset (List.mem_cons_of_mem _ List.mem_cons_self)
    rcases List.mem_cons.mp listed with rfl | later
    · exact differ rfl
    · rcases List.mem_cons.mp later with rfl | last
      · exact absurd same (by decide)
      · exact differ (List.mem_singleton.mp last)
  · rw [member, signed]
    decide
  · rw [member, signed]
    decide

/-- Three cameras that take pictures, the second under a name in capital letters. -/
def threeCameras : Interpreter Unit where
  components :=
    [{ identity := 0, name := "Port", operations := [listedAs "Snap"] },
      { identity := 1, name := "Middle", operations := [listedAs "SNAP"] },
      { identity := 2, name := "Starboard", operations := [listedAs "Snap"] }]

/-- The name in capital letters comes between the other two, so that they are both listed. -/
theorem exists_line_listed_twice :
    Unbroken threeCameras.components ∧
      threeCameras.commands = "Snap\nSNAP\nSnap" ∧
      (commandLines threeCameras.components).count ("Snap" : Text) = 2 := by
  have shallow : ∀ camera ∈ threeCameras.components, ∀ child ∈ camera.children,
      child.children = [] := by simp [threeCameras]
  have walked := Component.walk_of_shallow shallow
  have signed : signatureLines threeCameras.components =
      (["Snap", "SNAP", "Snap"] : List Text) := by
    rw [signatureLines, walked]
    rfl
  have level : (signatureLines threeCameras.components).Pairwise fun left right =>
      precedes left right = true := by
    rw [signed]
    decide
  have lines : commandLines threeCameras.components = (["Snap", "SNAP", "Snap"] : List Text) := by
    rw [commandLines_eq, List.mergeSort_of_pairwise level, signed]
    rfl
  refine ⟨?_, ?_, ?_⟩
  · rw [Unbroken, walked]
    decide
  · rw [commands, lines]
    rfl
  · rw [lines]
    rfl

end Interpreter

end CommandLink
