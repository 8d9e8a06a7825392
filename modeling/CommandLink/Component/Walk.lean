import CommandLink.Component.Basic

/-!
# Walking component trees

Every component below some roots, each with the dotted path of the names that lead to it. The names
of the roots are no part of the paths.
-/

namespace CommandLink

/-- A name below a path. -/
def qualify (path name : Text) : Text :=
  if path.isEmpty then name else path ++ '.' :: name

namespace Component

variable {σ : Type}

mutual

/-- The number of components in a tree. -/
def count : Component σ → Nat
  | ⟨_, _, _, _, children⟩ => countAll children + 1

/-- The number of components in some trees. -/
def countAll : List (Component σ) → Nat
  | [] => 0
  | component :: rest => component.count + countAll rest

end

theorem count_eq (component : Component σ) :
    component.count = countAll component.children + 1 := by
  cases component
  rfl

/-- Components still to be visited, each with its path, in the order of the visits. -/
abbrev Agenda (σ : Type) := List (Text × Component σ)

/-- The number of components on an agenda and below it. -/
def Agenda.count (agenda : Agenda σ) : Nat :=
  countAll (agenda.map Prod.snd)

theorem countAll_append (left right : List (Component σ)) :
    countAll (left ++ right) = countAll left + countAll right := by
  induction left with
  | nil => simp [countAll]
  | cons component rest inductionHypothesis => simp [countAll, inductionHypothesis, Nat.add_assoc]

/-- The children of a component, put on the agenda with their paths. -/
def childAgenda (path : Text) (component : Component σ) : Agenda σ :=
  component.children.map fun child => (qualify path child.name, child)

theorem count_childAgenda_append (path : Text) (component : Component σ) (rest : Agenda σ) :
    Agenda.count (childAgenda path component ++ rest) =
      countAll component.children + Agenda.count rest := by
  simp [Agenda.count, childAgenda, countAll_append, Function.comp_def]

/-- Visit what is on the agenda: a component first, then its children, then the rest. -/
def visit : Agenda σ → List (Text × Component σ)
  | [] => []
  | (path, component) :: rest =>
      (path, component) :: visit (childAgenda path component ++ rest)
termination_by agenda => Agenda.count agenda
decreasing_by
  rw [count_childAgenda_append]
  simp only [Agenda.count, List.map_cons, countAll]
  rw [count_eq]
  omega

/-- All components below the roots, with their paths. -/
def walk (roots : List (Component σ)) : List (Text × Component σ) :=
  visit (roots.map fun root => ([], root))

end Component

end CommandLink
