import CommandLink.Component.Walk

/-!
# Walks and chains of names

A walk goes through the trees of its roots one after the other. Whatever a chain of names leads to
is visited, so that owners that are looked up in every root come in the order of the walk
(`filterMap_descend_sublist_walk`). A component is visited once for each way that leads to it through
children, under the names on that way (`mem_walk_iff`).
-/

namespace CommandLink

namespace Component

variable {σ : Type} {component owner : Component σ} {roots : List (Component σ)}

theorem visit_append (agenda later : Agenda σ) :
    visit (agenda ++ later) = visit agenda ++ visit later := by
  induction agenda using visit.induct with
  | case1 => simp [visit]
  | case2 path component rest inductionHypothesis =>
      rw [List.cons_append, visit, visit, List.cons_append, ← inductionHypothesis,
        List.append_assoc]

theorem walk_cons (component : Component σ) (roots : List (Component σ)) :
    walk (component :: roots) = walk [component] ++ walk roots :=
  visit_append [([], component)] _

/-- Which components are visited does not depend on the paths. -/
theorem map_snd_visit_congr {agenda other : Agenda σ}
    (same : agenda.map Prod.snd = other.map Prod.snd) :
    (visit agenda).map Prod.snd = (visit other).map Prod.snd := by
  induction agenda using visit.induct generalizing other with
  | case1 =>
      obtain rfl := List.map_eq_nil_iff.mp same.symm
      rfl
  | case2 path component rest inductionHypothesis =>
      obtain ⟨⟨otherPath, visited⟩, others, rfl, sameFirst, sameRest⟩ :=
        List.map_eq_cons_iff.mp same.symm
      obtain rfl : visited = component := sameFirst
      rw [visit, visit, List.map_cons, List.map_cons]
      refine congrArg (visited :: ·) (inductionHypothesis ?_)
      simp [childAgenda, Function.comp_def, sameRest]

/-- A root is visited before what is below it. -/
theorem map_snd_walk_singleton (component : Component σ) :
    (walk [component]).map Prod.snd = component :: (walk component.children).map Prod.snd := by
  rw [walk, List.map_singleton, visit, List.map_cons, List.append_nil]
  refine congrArg (component :: ·) (map_snd_visit_congr ?_)
  simp [childAgenda, Function.comp_def]

/-- Components that nothing hangs below are all that is visited. -/
theorem visit_of_childless {agenda : Agenda σ}
    (childless : ∀ entry ∈ agenda, entry.2.children = []) : visit agenda = agenda := by
  induction agenda with
  | nil => rw [visit]
  | cons entry rest inductionHypothesis =>
      rw [List.forall_mem_cons] at childless
      rw [visit, childAgenda, childless.1, List.map_nil, List.nil_append,
        inductionHypothesis childless.2]

theorem map_snd_walk_of_childless (childless : ∀ root ∈ roots, root.children = []) :
    (walk roots).map Prod.snd = roots := by
  rw [walk, visit_of_childless (List.forall_mem_map.mpr childless)]
  simp [Function.comp_def]

/-- Where nothing hangs below children, they are visited under their names. -/
theorem walk_of_shallow
    (shallow : ∀ root ∈ roots, ∀ child ∈ root.children, child.children = []) :
    walk roots = roots.flatMap fun root =>
      ([], root) :: root.children.map fun child => (child.name, child) := by
  induction roots with
  | nil => rw [walk, List.map_nil, visit, List.flatMap_nil]
  | cons root roots inductionHypothesis =>
      rw [List.forall_mem_cons] at shallow
      have among : visit (childAgenda [] root) = childAgenda [] root :=
        visit_of_childless (List.forall_mem_map.mpr shallow.1)
      rw [walk_cons, inductionHypothesis shallow.2, List.flatMap_cons, walk, List.map_singleton,
        visit, List.append_nil, among]
      rfl

/-- What is below a root is below the roots. -/
theorem walk_singleton_subset (root : component ∈ roots) :
    (walk [component]).map Prod.snd ⊆ (walk roots).map Prod.snd := by
  induction roots with
  | nil => cases root
  | cons first roots inductionHypothesis =>
      rw [walk_cons first, List.map_append]
      rcases List.mem_cons.mp root with rfl | later
      · exact List.subset_append_left _ _
      · exact List.subset_append_of_subset_right _ (inductionHypothesis later)

/-- A chain of names leads to a component that is visited. -/
theorem mem_walk_of_descend {chain : List Text} (led : component.descend chain = some owner) :
    owner ∈ (walk [component]).map Prod.snd := by
  induction chain generalizing component with
  | nil =>
      cases led
      rw [map_snd_walk_singleton]
      exact List.mem_cons_self
  | cons name chain inductionHypothesis =>
      obtain ⟨child, found, ledChild⟩ := Option.bind_eq_some_iff.mp led
      rw [map_snd_walk_singleton]
      exact List.mem_cons_of_mem _
        (walk_singleton_subset (List.mem_of_find?_eq_some found) (inductionHypothesis ledChild))

/-- What a chain leads to from each of the roots is visited in the same order. -/
theorem filterMap_descend_sublist_walk (roots : List (Component σ)) (chain : List Text) :
    (roots.filterMap (·.descend chain)).Sublist ((walk roots).map Prod.snd) := by
  induction roots with
  | nil => exact List.nil_sublist _
  | cons component roots inductionHypothesis =>
      rw [walk_cons, List.map_append, ← List.singleton_append, List.filterMap_append]
      refine List.Sublist.append ?_ inductionHypothesis
      cases led : component.descend chain with
      | none => simp [led]
      | some owner =>
          simpa [led] using mem_walk_of_descend led

/-- The roots themselves are visited in their order. -/
theorem sublist_walk (roots : List (Component σ)) :
    roots.Sublist ((walk roots).map Prod.snd) := by
  simpa [descend] using filterMap_descend_sublist_walk roots []

/-- A way from a component through children to an owner, with the names of the children on it. Other
than a chain that is looked up, a way may lead through any of several children of one name. -/
inductive Below : Component σ → List Text → Component σ → Prop where
  | self (component : Component σ) : Below component [] component
  | child {component child owner : Component σ} {chain : List Text}
      (hangs : child ∈ component.children) (below : Below child chain owner) :
      Below component (child.name :: chain) owner

/-- The names on a way are those of components that ways lead to. -/
theorem Below.exists_of_mem {chain : List Text} (below : component.Below chain owner) {name : Text}
    (member : name ∈ chain) : ∃ way inner, component.Below way inner ∧ inner.name = name := by
  induction below with
  | self => cases member
  | @child _ child _ _ hangs _ inductionHypothesis =>
      rcases List.mem_cons.mp member with rfl | later
      · exact ⟨_, child, .child hangs (.self child), rfl⟩
      · obtain ⟨way, inner, belowChild, named⟩ := inductionHypothesis later
        exact ⟨_, inner, .child hangs belowChild, named⟩

/-- What is visited is what a way from the agenda leads to. -/
theorem mem_visit_iff {agenda : Agenda σ} {path : Text} :
    (path, owner) ∈ visit agenda ↔
      ∃ entry ∈ agenda, ∃ chain, entry.2.Below chain owner ∧ path = chain.foldl qualify entry.1 := by
  induction agenda using visit.induct with
  | case1 => simp [visit]
  | case2 start first rest inductionHypothesis =>
      rw [visit, List.mem_cons, inductionHypothesis]
      constructor
      · rintro (same | ⟨entry, member, chain, below, rfl⟩)
        · obtain ⟨rfl, rfl⟩ := Prod.mk.inj same
          exact ⟨_, List.mem_cons_self, [], .self owner, rfl⟩
        · rcases List.mem_append.mp member with among | later
          · obtain ⟨child, hangs, rfl⟩ := List.mem_map.mp among
            exact ⟨_, List.mem_cons_self, child.name :: chain, .child hangs below, rfl⟩
          · exact ⟨entry, List.mem_cons_of_mem _ later, chain, below, rfl⟩
      · rintro ⟨entry, member, chain, below, rfl⟩
        rcases List.mem_cons.mp member with rfl | later
        · cases below with
          | self => exact .inl rfl
          | @child _ child _ chain hangs below =>
              have among : (qualify start child.name, child) ∈ childAgenda start first ++ rest :=
                List.mem_append_left _ (List.mem_map.mpr ⟨child, hangs, rfl⟩)
              exact .inr ⟨_, among, chain, below, rfl⟩
        · exact .inr ⟨entry, List.mem_append_right _ later, chain, below, rfl⟩

/-- The components that are visited, each under the names on a way to it from a root. -/
theorem mem_walk_iff {path : Text} :
    (path, owner) ∈ walk roots ↔
      ∃ root ∈ roots, ∃ chain, root.Below chain owner ∧ path = chain.foldl qualify [] := by
  rw [walk, mem_visit_iff]
  constructor
  · rintro ⟨entry, member, found⟩
    obtain ⟨root, among, rfl⟩ := List.mem_map.mp member
    exact ⟨root, among, found⟩
  · rintro ⟨root, among, found⟩
    exact ⟨([], root), List.mem_map.mpr ⟨root, among, rfl⟩, found⟩

theorem Below.exists_entry {root : Component σ} {chain : List Text}
    (below : root.Below chain owner) (registered : root ∈ roots) :
    ∃ entry ∈ walk roots, entry.2 = owner :=
  ⟨(chain.foldl qualify [], owner), mem_walk_iff.mpr ⟨root, registered, chain, below, rfl⟩, rfl⟩

end Component

end CommandLink
