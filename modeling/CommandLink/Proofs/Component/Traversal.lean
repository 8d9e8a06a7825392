import CommandLink.Proofs.Component.Walk
import CommandLink.Proofs.Line.Sections
import Mathlib.Logic.Function.Iterate

/-!
# Walks as traversals

The pre-order traversal of some trees goes through each root, then through its children, then through
the roots that follow. It stops once at every position, in the order of the positions
(`pairwise_preorder`, `mem_preorder_iff`). A walk, which keeps an agenda instead, visits the components
of that traversal, each under the names below its root, and so does a walk whose agenda is a stack
(`walk_eq_preorder`).
-/

namespace CommandLink

/-- Names below each other are joined by dots if none of them is empty. -/
theorem foldl_qualify {path : Text} (filledPath : path ≠ []) (names : List Text) :
    names.foldl qualify path = Text.join ['.'] (path :: names) := by
  induction names generalizing path with
  | nil => exact (Text.join_singleton _ _).symm
  | cons name names inductionHypothesis =>
      have below : qualify path name = path ++ '.' :: name := by simp [qualify, filledPath]
      rw [List.foldl_cons, below, inductionHypothesis (by simp)]
      cases names with
      | nil => simp [Text.join_cons, Text.join_singleton]
      | cons next names => simp [Text.join_cons]

theorem foldl_qualify_nil {names : List Text} (filled : ∀ name ∈ names, name ≠ []) :
    names.foldl qualify [] = Text.join ['.'] names := by
  cases names with
  | nil => rfl
  | cons name names => exact foldl_qualify (filled name List.mem_cons_self) names

namespace Component

variable {σ : Type} {siblings roots : List (Component σ)} {component owner : Component σ}

/-- A component in the trees of some siblings. Its position numbers a sibling, then one of the
children of that, and so on; the names are those on the way, its own the last. -/
structure Stop (σ : Type) where
  position : List Nat
  names : List Text
  component : Component σ

/-- A stop among the children of a component, as a stop among the siblings of that component. -/
def Stop.below (index : Nat) (name : Text) (stop : Stop σ) : Stop σ :=
  ⟨index :: stop.position, name :: stop.names, stop.component⟩

/-- The pre-order traversal of some siblings, the first of which has a number: the first one, then
its children, then the siblings that follow. -/
def preorderFrom (index : Nat) : List (Component σ) → List (Stop σ)
  | [] => []
  | component :: rest =>
      ⟨[index], [component.name], component⟩ ::
        ((preorderFrom 0 component.children).map (Stop.below index component.name) ++
          preorderFrom (index + 1) rest)
termination_by siblings => countAll siblings
decreasing_by
  · rw [countAll, count_eq]
    omega
  · rw [countAll, count_eq]
    omega

/-- The pre-order traversal of the trees of some roots. -/
def preorder (roots : List (Component σ)) : List (Stop σ) :=
  preorderFrom 0 roots

/-- A position leads to a component, past certain names. -/
inductive Leads : List (Component σ) → List Nat → List Text → Component σ → Prop where
  | here {siblings : List (Component σ)} {index : Nat} {component : Component σ}
      (found : siblings[index]? = some component) :
      Leads siblings [index] [component.name] component
  | onward {siblings : List (Component σ)} {index : Nat} {component owner : Component σ}
      {position : List Nat} {names : List Text} (found : siblings[index]? = some component)
      (later : Leads component.children position names owner) :
      Leads siblings (index :: position) (component.name :: names) owner

variable {index : Nat} {position : List Nat} {names : List Text} {stop : Stop σ}

theorem not_leads_nil : ¬ Leads [] position names owner := by
  intro leads
  cases leads <;> contradiction

theorem Leads.exists_cons (leads : Leads siblings position names owner) :
    ∃ index rest, position = index :: rest := by
  cases leads <;> exact ⟨_, _, rfl⟩

theorem leads_cons_succ_iff :
    Leads (component :: siblings) ((index + 1) :: position) names owner ↔
      Leads siblings (index :: position) names owner := by
  constructor
  · intro leads
    cases leads with
    | here found => exact .here found
    | onward found later => exact .onward found later
  · intro leads
    cases leads with
    | here found => exact .here found
    | onward found later => exact .onward found later

theorem leads_cons_zero_iff :
    Leads (component :: siblings) (0 :: position) names owner ↔
      position = [] ∧ names = [component.name] ∧ owner = component ∨
        ∃ later, names = component.name :: later ∧ Leads component.children position later owner := by
  constructor
  · intro leads
    cases leads with
    | here found =>
        obtain rfl := Option.some.inj found
        exact .inl ⟨rfl, rfl, rfl⟩
    | onward found later =>
        obtain rfl := Option.some.inj found
        exact .inr ⟨_, rfl, later⟩
  · rintro (⟨rfl, rfl, rfl⟩ | ⟨later, rfl, leads⟩)
    · exact .here rfl
    · exact .onward rfl leads

/-- The traversal stops at every position that leads to a component, and nowhere else. -/
theorem mem_preorderFrom_iff :
    stop ∈ preorderFrom index siblings ↔
      ∃ offset position, stop.position = (index + offset) :: position ∧
        Leads siblings (offset :: position) stop.names stop.component := by
  induction index, siblings using preorderFrom.induct generalizing stop with
  | case1 index =>
      rw [preorderFrom]
      refine iff_of_false List.not_mem_nil ?_
      rintro ⟨offset, position, _, leads⟩
      exact not_leads_nil leads
  | case2 index component rest ofChildren ofRest =>
      rw [preorderFrom, List.mem_cons, List.mem_append, List.mem_map, ofRest]
      constructor
      · rintro (rfl | ⟨inner, member, rfl⟩ | ⟨offset, position, whole, leads⟩)
        · exact ⟨0, [], rfl, .here rfl⟩
        · obtain ⟨offset, position, whole, leads⟩ := ofChildren.mp member
          rw [Nat.zero_add] at whole
          exact ⟨0, inner.position, rfl, .onward rfl (whole ▸ leads)⟩
        · refine ⟨offset + 1, position, ?_, leads_cons_succ_iff.mpr leads⟩
          rw [whole, Nat.add_assoc, Nat.add_comm 1 offset]
      · rintro ⟨offset, position, whole, leads⟩
        cases offset with
        | zero =>
            obtain ⟨place, names, owner⟩ := stop
            obtain rfl : place = index :: position := whole
            rcases leads_cons_zero_iff.mp leads with ⟨rfl, named, rfl⟩ | ⟨later, named, leadsLater⟩
            · exact .inl (by rw [← named])
            · obtain ⟨first, others, rfl⟩ := leadsLater.exists_cons
              refine .inr (.inl ⟨⟨first :: others, later, owner⟩, ofChildren.mpr ?_, ?_⟩)
              · exact ⟨first, others, by rw [Nat.zero_add], leadsLater⟩
              · rw [Stop.below, ← named]
        | succ offset =>
            refine .inr (.inr ⟨offset, position, ?_, leads_cons_succ_iff.mp leads⟩)
            rw [whole, Nat.add_assoc, Nat.add_comm 1 offset]

theorem mem_preorder_iff :
    stop ∈ preorder roots ↔ Leads roots stop.position stop.names stop.component := by
  rw [preorder, mem_preorderFrom_iff]
  constructor
  · rintro ⟨offset, position, whole, leads⟩
    rwa [whole, Nat.zero_add]
  · intro leads
    obtain ⟨first, others, whole⟩ := leads.exists_cons
    exact ⟨first, others, by rw [whole, Nat.zero_add], whole ▸ leads⟩

/-- The traversal stops in the order of the positions. -/
theorem pairwise_preorderFrom (index : Nat) (siblings : List (Component σ)) :
    (preorderFrom index siblings).Pairwise fun stop later => stop.position < later.position := by
  induction index, siblings using preorderFrom.induct with
  | case1 index =>
      rw [preorderFrom]
      exact .nil
  | case2 index component rest ofChildren ofRest =>
      rw [preorderFrom, List.pairwise_cons, List.pairwise_append, List.pairwise_map]
      have filled (inner : Stop σ) (member : inner ∈ preorderFrom 0 component.children) :
          [] < inner.position := by
        obtain ⟨offset, position, whole, _⟩ := mem_preorderFrom_iff.mp member
        rw [whole]
        exact List.nil_lt_cons _ _
      have follows (position : List Nat) (later : Stop σ)
          (member : later ∈ preorderFrom (index + 1) rest) : index :: position < later.position := by
        obtain ⟨offset, laterPosition, whole, _⟩ := mem_preorderFrom_iff.mp member
        rw [whole]
        exact List.cons_lt_cons_iff.mpr (.inl (by omega))
      refine ⟨fun later member => ?_, ?_, ofRest, fun inner among later member => ?_⟩
      · rcases List.mem_append.mp member with among | among
        · obtain ⟨inner, inside, rfl⟩ := List.mem_map.mp among
          exact List.cons_lt_cons_iff.mpr (.inr ⟨rfl, filled inner inside⟩)
        · exact follows [] later among
      · exact ofChildren.imp fun less => List.cons_lt_cons_iff.mpr (.inr ⟨rfl, less⟩)
      · obtain ⟨inner, _, rfl⟩ := List.mem_map.mp among
        exact follows inner.position later member

/-- Siblings below a path are visited as the traversal stops, each under the names on the way, behind
the path. -/
theorem visit_siblings (index : Nat) (siblings : List (Component σ)) (path : Text) :
    visit (siblings.map fun component => (qualify path component.name, component)) =
      (preorderFrom index siblings).map fun stop =>
        (stop.names.foldl qualify path, stop.component) := by
  induction index, siblings using preorderFrom.induct generalizing path with
  | case1 index => rw [preorderFrom, List.map_nil, List.map_nil, visit]
  | case2 index component rest ofChildren ofRest =>
      rw [preorderFrom, List.map_cons, visit, visit_append, childAgenda, ofChildren, ofRest]
      simp [Stop.below, Function.comp_def]

/-- Roots are visited under no names, and what is below them under the names of the others on the
way. -/
theorem visit_roots (index : Nat) (roots : List (Component σ)) :
    visit (roots.map fun root => ([], root)) =
      (preorderFrom index roots).map fun stop =>
        (stop.names.tail.foldl qualify [], stop.component) := by
  induction roots generalizing index with
  | nil => rw [preorderFrom, List.map_nil, List.map_nil, visit]
  | cons root roots inductionHypothesis =>
      rw [preorderFrom, List.map_cons, visit, visit_append, childAgenda, visit_siblings 0,
        inductionHypothesis (index + 1)]
      simp [Stop.below, Function.comp_def]

/-- What a position leads to hangs below one of the siblings, which the first name names. -/
theorem Leads.exists_below (leads : Leads siblings position names owner) :
    ∃ component ∈ siblings, ∃ chain, names = component.name :: chain ∧ component.Below chain owner := by
  induction leads with
  | @here siblings index component found =>
      exact ⟨component, List.mem_of_getElem? found, [], rfl, .self component⟩
  | @onward siblings index component owner position names found later inductionHypothesis =>
      obtain ⟨child, hangs, chain, rfl, below⟩ := inductionHypothesis
      exact ⟨component, List.mem_of_getElem? found, _, rfl, .child hangs below⟩

/-- A walk whose agenda is a stack: its top, which is visited next, stands last. -/
structure StackWalk (σ : Type) where
  stack : Agenda σ
  visited : Agenda σ

namespace StackWalk

/-- Nothing is visited yet, and the first root is on top. -/
def start (roots : List (Component σ)) : StackWalk σ :=
  ⟨(roots.map fun root => ([], root)).reverse, []⟩

/-- Visit the top of the stack and push its children, the last one first. -/
def turn (walk : StackWalk σ) : StackWalk σ :=
  match walk.stack.getLast? with
  | none => walk
  | some (path, component) =>
      ⟨walk.stack.dropLast ++
          component.children.reverse.map fun child => (qualify path child.name, child),
        walk.visited ++ [(path, component)]⟩

theorem turn_concat (agenda visited : Agenda σ) (path : Text) (component : Component σ) :
    turn ⟨((path, component) :: agenda).reverse, visited⟩ =
      ⟨(childAgenda path component ++ agenda).reverse, visited ++ [(path, component)]⟩ := by
  simp [turn, childAgenda]

/-- After one turn for each component a walk with a stack is at its end, and it has visited the same
in the same order. -/
theorem iterate_turn (agenda visited : Agenda σ) :
    turn^[agenda.count] ⟨agenda.reverse, visited⟩ = ⟨[], visited ++ visit agenda⟩ := by
  induction agenda using visit.induct generalizing visited with
  | case1 => simp [Agenda.count, countAll, visit]
  | case2 path component rest inductionHypothesis =>
      have turns : Agenda.count ((path, component) :: rest) =
          Agenda.count (childAgenda path component ++ rest) + 1 := by
        rw [count_childAgenda_append]
        simp only [Agenda.count, List.map_cons, countAll, count_eq]
        omega
      rw [turns, Function.iterate_succ_apply, turn_concat, inductionHypothesis, visit,
        List.append_assoc, List.singleton_append]

theorem iterate_turn_start (roots : List (Component σ)) :
    turn^[countAll roots] (start roots) = ⟨[], walk roots⟩ := by
  have turns : Agenda.count (roots.map fun root => ([], root)) = countAll roots := by
    simp [Agenda.count, Function.comp_def]
  rw [← turns, start, iterate_turn, List.nil_append, walk]

end StackWalk

/-- A walk ends after one turn for each component, and it is the pre-order traversal of the trees of
the roots: one visit for each position that leads to a component, in the order of the positions, each
under the names below the root joined by dots. In that order a position comes before those that go on
from it, and otherwise the number in which two positions differ first decides. -/
theorem walk_eq_preorder (roots : List (Component σ))
    (named : ∀ root ∈ roots, ∀ chain owner, root.Below chain owner → ∀ name ∈ chain, name ≠ []) :
    StackWalk.turn^[countAll roots] (.start roots) = ⟨[], walk roots⟩ ∧
      walk roots = (preorder roots).map (fun stop =>
        (Text.join ['.'] stop.names.tail, stop.component)) ∧
      (preorder roots).Pairwise (fun stop later => stop.position < later.position) ∧
      ∀ position names owner, ⟨position, names, owner⟩ ∈ preorder roots ↔
        Leads roots position names owner := by
  have whole : walk roots = (preorder roots).map (fun stop =>
      (stop.names.tail.foldl qualify [], stop.component)) := visit_roots 0 roots
  refine ⟨StackWalk.iterate_turn_start roots, ?_, pairwise_preorderFrom 0 roots,
    fun position names owner => mem_preorder_iff⟩
  rw [whole]
  refine List.map_congr_left fun stop member => ?_
  obtain ⟨root, registered, chain, onTheWay, below⟩ := (mem_preorder_iff.mp member).exists_below
  rw [onTheWay, List.tail_cons, foldl_qualify_nil (named root registered chain _ below)]

/-- A lens with a motor that hangs below two mounts, in front of a port and by itself. -/
def mounts : List (Component Unit) :=
  let lens : Component Unit :=
    { identity := 2, name := "Lens", children := [{ identity := 3, name := "Motor" }] }
  [{ identity := 0, name := "Left", children := [lens, { identity := 4, name := "Port" }] },
    { identity := 1, name := "Right", children := [lens] }]

/-- What is shared is visited below each of its parents. -/
theorem walk_eq_preorder_mounts :
    (∀ root ∈ mounts, ∀ chain owner, root.Below chain owner → ∀ name ∈ chain, name ≠ []) ∧
      StackWalk.turn^[7] (.start mounts) = ⟨[], walk mounts⟩ ∧
      (walk mounts).map (fun entry => (entry.1, entry.2.identity)) =
        ([("", 0), ("Lens", 2), ("Lens.Motor", 3), ("Port", 4), ("", 1), ("Lens", 2),
          ("Lens.Motor", 3)].map fun entry => (entry.1.toList, entry.2)) := by
  have named : ∀ root ∈ mounts, ∀ chain owner, root.Below chain owner →
      ∀ name ∈ chain, name ≠ [] := by
    intro root registered chain owner below name inside
    obtain ⟨way, inner, leads, rfl⟩ := below.exists_of_mem inside
    have filled : ∀ entry ∈ walk mounts, entry.2.name ≠ [] := by
      simp [mounts, walk, visit, childAgenda]
    exact filled _ (mem_walk_iff.mpr ⟨root, registered, way, leads, rfl⟩)
  obtain ⟨ends, whole, _⟩ := walk_eq_preorder mounts named
  refine ⟨named, ends, ?_⟩
  rw [whole]
  simp [mounts, preorder, preorderFrom, Stop.below, Text.join]

end Component

end CommandLink
