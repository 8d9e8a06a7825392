import CommandLink.Proofs.Component.Traversal
import CommandLink.Proofs.Dispatch.Additions
import CommandLink.Proofs.Dispatch.Readings
import CommandLink.Proofs.Dispatch.Signatures

/-!
# Paths that are listed

The listing shows an operation below the names on the way to its component, without the name of the
registered component where the way begins. A path is looked up from the registered components of its
first name, if it leads anywhere from those, and each further name leads to the first child that has
it. So what is listed need not be found: its path may lead to other components only. `Masked` says when
that is so, and a path that is listed is accepted exactly if it is not masked
(`hasOperation_listed_iff`).
-/

namespace CommandLink

variable {σ : Type}

theorem dotted_eq_join {names : List Text} (filled : ∀ name ∈ names, name ≠ []) :
    dotted names = Text.join ['.'] names :=
  foldl_qualify_nil filled

theorem qualify_append (path name rest : Text) :
    qualify path (name ++ rest) = qualify path name ++ rest := by
  unfold qualify
  split <;> simp

/-- The part of a line of the listing that is a command: all before the parameters. -/
def listedPath (line : Text) : Text :=
  (Text.cut ':' line).1

namespace Operation

theorem answers_name (operation : Operation σ) : operation.answers operation.name = true := by
  simp [answers, answersTo, Text.sameName]

/-- A signature is a name, or a name with its parameters. -/
theorem signature_cases (operation : Operation σ) :
    operation.signature = operation.name ∨
      ∃ parameters, operation.signature = operation.name ++ ": " ++ parameters := by
  unfold signature
  split
  · exact .inl rfl
  · exact .inr ⟨_, rfl⟩

end Operation

/-- The command of a signature is the name of its operation, below the same path. -/
theorem listedPath_signature {operation : Operation σ} {chain : List Text}
    (uncutChain : ∀ name ∈ chain, ':' ∉ name) (uncut : ':' ∉ operation.name) :
    listedPath (dotted (chain ++ [operation.signature])) = dotted (chain ++ [operation.name]) := by
  have clear : ':' ∉ qualify (dotted chain) operation.name :=
    notMem_qualify (by decide) (notMem_dotted (by decide) uncutChain) uncut
  rw [dotted_concat, dotted_concat, listedPath]
  rcases operation.signature_cases with bare | ⟨parameters, whole⟩
  · rw [bare, Text.cut_of_not_mem clear]
  · have cut := Text.cut_append_cons clear (' ' :: parameters)
    rw [whole, List.append_assoc, qualify_append]
    exact congrArg Prod.fst cut

namespace Component

variable {components : List (Component σ)} {component child owner root : Component σ}

/-- The children of a component have names of their own. -/
def Apart (component : Component σ) : Prop :=
  component.children.Pairwise fun child other => Text.sameName child.name other.name = false

instance (component : Component σ) : Decidable component.Apart :=
  inferInstanceAs (Decidable (List.Pairwise _ component.children))

theorem Apart.child?_eq (apart : component.Apart) (hangs : child ∈ component.children) :
    component.child? child.name = some child := by
  unfold child?
  unfold Apart at apart
  generalize component.children = children at apart hangs
  induction children with
  | nil => cases hangs
  | cons first rest inductionHypothesis =>
      rw [List.pairwise_cons] at apart
      rcases List.mem_cons.mp hangs with rfl | later
      · exact List.find?_cons_of_pos (beq_self_eq_true _)
      · rw [List.find?_cons_of_neg (by simp [apart.1 child later])]
        exact inductionHypothesis apart.2 later

/-- Where children have names of their own, the names on a way lead along it. -/
theorem Below.descend_eq {chain : List Text} (below : root.Below chain owner)
    (apart : ∀ way inner, root.Below way inner → inner.Apart) :
    root.descend chain = some owner := by
  induction below with
  | self => rfl
  | child hangs _ inductionHypothesis =>
      rw [descend, (apart [] _ (.self _)).child?_eq hangs, Option.bind_some]
      exact inductionHypothesis fun way inner reached => apart _ inner (.child hangs reached)

/-- A component is found at a path from the registered components of its first name, or, if the path
leads nowhere from those, through the children of any. -/
theorem mem_qualifiedOwners_iff {first : Text} {chain : List Text} :
    owner ∈ qualifiedOwners components (first :: chain) ↔
      (∃ root ∈ components, Text.sameName root.name first = true ∧ root.descend chain = some owner) ∨
        ¬ Reaches components first chain ∧
          ∃ root ∈ components, root.descend (first :: chain) = some owner := by
  by_cases reaches : Reaches components first chain
  · simp [reaches.qualifiedOwners_eq, reaches, and_assoc]
  · have nowhere : ((components.filter fun component =>
        Text.sameName component.name first).filterMap (·.descend chain)) = [] := by
      refine List.filterMap_eq_nil_iff.mpr fun root member => ?_
      obtain ⟨registered, named⟩ := List.mem_filter.mp member
      refine Option.eq_none_iff_forall_ne_some.mpr fun other led => ?_
      exact reaches ⟨root, registered, named, other, led⟩
    have none : ¬ ∃ root ∈ components,
        Text.sameName root.name first = true ∧ root.descend chain = some owner :=
      fun ⟨root, registered, named, led⟩ => reaches ⟨root, registered, named, owner, led⟩
    simp [qualifiedOwners, nowhere, reaches, none]

end Component

namespace Interpreter

variable {components : List (Component σ)} {chain : List Text} {name : Text}

/-- A component has an operation that answers to a name. -/
def Serves (owner : Component σ) (name : Text) : Prop :=
  ∃ operation ∈ owner.operations, operation.answers name = true

/-- A name behind a path finds no operation, because its path leads to others only: -/
inductive Masked (components : List (Component σ)) (name : Text) : List Text → Prop where
  /-- from registered components of its first name, none of which leads to such an operation, -/
  | registered {first : Text} {chain : List Text}
      (reaches : Component.Reaches components first chain)
      (astray : ∀ root ∈ components, Text.sameName root.name first = true →
        ∀ owner, root.descend chain = some owner → ¬ Serves owner name) :
      Masked components name (first :: chain)
  /-- or, where it leads nowhere from those, through the first children of its names. -/
  | sibling {first : Text} {chain : List Text}
      (free : ¬ Component.Reaches components first chain)
      (astray : ∀ root ∈ components, ∀ owner, root.descend (first :: chain) = some owner →
        ¬ Serves owner name) :
      Masked components name (first :: chain)

/-- What is not masked is found behind a path. -/
theorem not_masked_iff {first : Text} : ¬ Masked components name (first :: chain) ↔
    ∃ owner ∈ qualifiedOwners components (first :: chain), Serves owner name := by
  simp only [Component.mem_qualifiedOwners_iff]
  constructor
  · intro clear
    by_contra none
    by_cases reaches : Component.Reaches components first chain
    · refine clear (.registered reaches fun root registered named owner led serves => ?_)
      exact none ⟨owner, .inl ⟨root, registered, named, led⟩, serves⟩
    · refine clear (.sibling reaches fun root registered owner led serves => ?_)
      exact none ⟨owner, .inr ⟨reaches, root, registered, led⟩, serves⟩
  · rintro ⟨owner, found, serves⟩ masked
    cases masked with
    | registered reaches astray =>
        rcases found with ⟨root, registered, named, led⟩ | ⟨free, _⟩
        · exact astray root registered named owner led serves
        · exact free reaches
    | sibling free astray =>
        rcases found with ⟨root, registered, named, led⟩ | ⟨_, root, registered, led⟩
        · exact free ⟨root, registered, named, owner, led⟩
        · exact astray root registered owner led serves

/-- Components and operations have names that can stand alone as a command path. -/
def Named (components : List (Component σ)) : Prop :=
  ∀ entry ∈ Component.walk components, Line.IsName entry.2.name ∧
    ∀ operation ∈ entry.2.operations, Line.IsName operation.name

theorem Offers.isName {operation : Operation σ} (offers : Offers components chain operation)
    (named : Named components) : ∀ name ∈ chain ++ [operation.name], Line.IsName name := by
  obtain ⟨registered, below, member, _⟩ := offers
  refine List.forall_mem_append.mpr ⟨fun name inside => ?_, ?_⟩
  · obtain ⟨_, inner, reached, rfl⟩ := below.exists_of_mem inside
    obtain ⟨entry, visited, rfl⟩ := reached.exists_entry registered
    exact (named entry visited).1
  · obtain ⟨entry, visited, rfl⟩ := below.exists_entry registered
    rw [List.forall_mem_singleton]
    exact (named entry visited).2 _ member

/-- The path of an operation that is offered is found unless it is masked. -/
theorem Offers.hasOperation_iff {operation : Operation σ} (offers : Offers components chain operation)
    (named : Named components) :
    hasOperation components (Text.join ['.'] (chain ++ [operation.name])) = true ↔
      ¬ Masked components operation.name chain := by
  have isName := offers.isName named
  rw [CommandLink.hasOperation_iff, Line.parse_join isName, Line.qualifiers_concat,
    Line.name_concat]
  obtain ⟨registered, below, member, _⟩ := offers
  cases chain with
  | nil =>
      cases below
      refine iff_of_true (.inr ⟨_, registered, operation, member, ?_⟩) nofun
      exact operation.answers_name
  | cons first chain =>
      rw [not_masked_iff]
      refine or_iff_right ?_
      -- A built-in command stands alone, and has no path.
      rintro ⟨builtin, same⟩
      have asked := Builtin.ofLine?_of_named? same
      rw [Line.parse_join isName] at asked
      cases chain <;> cases asked

/-- No name leads to two components. -/
structure Unambiguous (components : List (Component σ)) : Prop where
  /-- The children of each component have names of their own, -/
  apart : ∀ entry ∈ Component.walk components, entry.2.Apart
  /-- and a registered component has no name of a child of a registered one. -/
  free : ∀ root ∈ components, ∀ child ∈ root.children, ∀ other ∈ components,
    Text.sameName other.name child.name = false

/-- Where no name leads to two components, nothing is masked. -/
theorem Unambiguous.not_masked (unambiguous : Unambiguous components) {operation : Operation σ}
    (offers : Offers components chain operation) : ¬ Masked components operation.name chain := by
  obtain ⟨registered, below, member, _⟩ := offers
  have led := below.descend_eq fun _ _ reached => by
    obtain ⟨entry, visited, rfl⟩ := reached.exists_entry registered
    exact unambiguous.apart entry visited
  intro masked
  cases masked with
  | registered reaches _ =>
      cases below with
      | child hangs _ =>
          obtain ⟨other, among, named, _⟩ := reaches
          simp [unambiguous.free _ registered _ hangs other among] at named
  | sibling _ astray => exact astray _ registered _ led ⟨operation, member, operation.answers_name⟩

/-- Where all names can stand alone, each line of the listing shows an operation that is offered, and
before its parameters the path of that operation. The path is accepted as a command exactly if it is
not masked, and so all of them are where no name leads to two components. -/
theorem hasOperation_listed_iff {line : Text} (named : Named components)
    (listed : line ∈ commandLines components) :
    ∃ chain operation, Offers components chain operation ∧
      line = dotted (chain ++ [operation.signature]) ∧
      listedPath line = Text.join ['.'] (chain ++ [operation.name]) ∧
      (hasOperation components (listedPath line) = true ↔
        ¬ Masked components operation.name chain) ∧
      (Unambiguous components → hasOperation components (listedPath line) = true) := by
  obtain ⟨chain, operation, offers, rfl⟩ := mem_commandLines_iff.mp listed
  have isName := offers.isName named
  have ⟨isNameChain, isNameLast⟩ := List.forall_mem_append.mp isName
  have path : listedPath (dotted (chain ++ [operation.signature])) =
      Text.join ['.'] (chain ++ [operation.name]) := by
    rw [listedPath_signature (fun name inside => (isNameChain name inside).uncut)
      (isNameLast _ (List.mem_singleton_self _)).uncut]
    exact dotted_eq_join fun name inside => (isName name inside).filled
  have accepted := offers.hasOperation_iff named
  refine ⟨chain, operation, offers, rfl, path, path ▸ accepted, fun unambiguous => ?_⟩
  rw [path]
  exact accepted.mpr (unambiguous.not_masked offers)

/-- The lens of one of two cameras is found as it is listed. -/
theorem hasOperation_listed_lens :
    let line : Text := "Lens.Focus: Float distance"
    Named cameras.components ∧ line ∈ commandLines cameras.components ∧
      Unambiguous cameras.components ∧ listedPath line = "Lens.Focus" ∧
      hasOperation cameras.components "Lens.Focus" = true := by
  intro line
  have walked := Component.walk_of_shallow cameras_shallow
  have named : Named cameras.components := by
    rw [Named, walked]
    decide
  have unambiguous : Unambiguous cameras.components := by
    refine ⟨?_, by decide⟩
    rw [walked]
    decide
  have listed : line ∈ commandLines cameras.components := by
    have hangs : cameras.components[0].children[0] ∈ cameras.components[0].children :=
      List.mem_singleton_self _
    have offers : Offers cameras.components ["Lens"] (listedAs "Focus" [⟨"distance", .float⟩]) :=
      ⟨List.mem_cons_self, .child hangs (.self _), List.mem_singleton_self _, rfl⟩
    exact mem_commandLines_iff.mpr ⟨_, _, offers, by decide⟩
  obtain ⟨_, _, _, _, _, _, accepted⟩ := hasOperation_listed_iff named listed
  exact ⟨named, listed, unambiguous, by decide, accepted unambiguous⟩

/-- A camera with a lens and two mounts of one name, and another lens beside it. -/
def stand : Interpreter Unit where
  components :=
    [{ identity := 0
       name := "Camera"
       children :=
        [{ identity := 1, name := "Lens", operations := [listedAs "Zoom"] },
          { identity := 2, name := "Mount", operations := [listedAs "Pan"] },
          { identity := 3, name := "Mount", operations := [listedAs "Tilt"] }] },
      { identity := 4, name := "Lens", operations := [listedAs "Focus"] }]

/-- Neither the lens of the camera nor its second mount is found as it is listed. -/
theorem exists_listed_not_found :
    Named stand.components ∧
      ∀ line ∈ (["Lens.Zoom", "Mount.Tilt"] : List Text), line ∈ commandLines stand.components ∧
        listedPath line = line ∧ hasOperation stand.components line = false := by
  have shallow : ∀ root ∈ stand.components, ∀ child ∈ root.children, child.children = [] := by
    simp [stand]
  have walked := Component.walk_of_shallow shallow
  have signed : signatureLines stand.components =
      (["Lens.Zoom", "Mount.Pan", "Mount.Tilt", "Focus"] : List Text) := by
    rw [signatureLines, walked]
    rfl
  refine ⟨?_, fun line member => ⟨?_, ?_⟩⟩
  · rw [Named, walked]
    decide
  · rw [mem_commandLines_iff, ← mem_signatureLines_iff, signed]
    revert line
    decide
  · revert line
    decide +kernel

end Interpreter

end CommandLink
