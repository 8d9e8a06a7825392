import CommandLink.Interpreter.Listing
import CommandLink.Proofs.Component.Walk
import CommandLink.Suggestion.Rank
import Mathlib.Data.Int.Order.Basic
import Mathlib.Order.Compare

/-!
# What is suggested

Names are put in order by their likeness to the input and by their characters, and this order tells any
two names apart. So the names in order are determined by which names there are, and with them the names
that are near the best and the first spelling of each (`mem_takeWhile_iff`, `mem_distinctNames_iff`).
Neither the order in which names come nor their repetition makes a difference (`rank_same_names`), so
that suggestions do not depend on the order of registration (`suggest_congr`).
-/

namespace CommandLink

theorem Text.sameName_trans {first second third : Text}
    (same : Text.sameName first second = true) (sameNext : Text.sameName second third = true) :
    Text.sameName first third = true := by
  simp only [Text.sameName, beq_iff_eq] at same sameNext ⊢
  exact same.trans sameNext

namespace Suggestion

variable {input name : Text} {threshold window : Limit} {names others chosen left right : List Text}

/-- A name with its likeness to the input. -/
def Candidate.of (input name : Text) : Candidate :=
  ⟨EditDistance.likeness input.toSmall name.toSmall, name⟩

theorem Candidate.precedes_iff {left right : Candidate} :
    left.precedes right = true ↔
      right.likeness.units < left.likeness.units ∨
        right.likeness.units = left.likeness.units ∧ (compare left.name right.name).isLE = true := by
  unfold precedes Double.order
  rcases lt_trichotomy right.likeness.units left.likeness.units with less | same | greater
  · simp [compare_lt_iff_lt.mpr less, less]
  · simp [same]
  · simp [compare_gt_iff_gt.mpr greater, greater.ne', greater.le]

theorem Candidate.precedes_trans (first second third : Candidate)
    (before : first.precedes second = true) (after : second.precedes third = true) :
    first.precedes third = true := by
  rw [precedes_iff] at before after ⊢
  rcases before with less | ⟨same, ordered⟩ <;> rcases after with lessNext | ⟨sameNext, orderedNext⟩
  · exact .inl (lt_trans lessNext less)
  · exact .inl (sameNext ▸ less)
  · exact .inl (same ▸ lessNext)
  · exact .inr ⟨sameNext.trans same, Std.TransCmp.isLE_trans ordered orderedNext⟩

theorem Candidate.precedes_total (left right : Candidate) :
    (left.precedes right || right.precedes left) = true := by
  rw [Bool.or_eq_true, precedes_iff, precedes_iff]
  rcases lt_trichotomy left.likeness.units right.likeness.units with less | same | greater
  · exact .inr (.inl less)
  · have names : (compare left.name right.name).isLE = true ∨
        (compare right.name left.name).isLE = true := by
      rw [Std.OrientedOrd.eq_swap]
      cases compare right.name left.name <;> simp
    exact names.imp (fun ordered => .inr ⟨same.symm, ordered⟩) (fun ordered => .inr ⟨same, ordered⟩)
  · exact .inl (.inl greater)

/-- Whether a name stands in front of another, or may. -/
def Ahead (input name other : Text) : Prop :=
  (Candidate.of input name).precedes (Candidate.of input other) = true

theorem Ahead.refl (input name : Text) : Ahead input name name := by
  simpa [Ahead] using Candidate.precedes_total (Candidate.of input name) (Candidate.of input name)

/-- Of two names only one may stand in front of the other. -/
theorem Ahead.antisymm {other : Text} (ahead : Ahead input name other)
    (behind : Ahead input other name) : name = other := by
  rw [Ahead, Candidate.precedes_iff] at ahead behind
  have ordered : (compare name other).isLE = true ∧ (compare other name).isLE = true := by
    rcases ahead with less | ⟨_, ordered⟩ <;> rcases behind with lessBack | ⟨_, orderedBack⟩
    · omega
    · omega
    · omega
    · exact ⟨ordered, orderedBack⟩
  exact Std.LawfulEqCmp.eq_of_compare (Std.OrientedCmp.isLE_antisymm ordered.1 ordered.2)

/-- The first of names in order stands in front of all of them. -/
theorem ahead_of_mem {first : Text} {rest : List Text}
    (inOrder : (first :: rest).Pairwise (Ahead input)) (member : name ∈ first :: rest) :
    Ahead input first name := by
  rcases List.mem_cons.mp member with rfl | later
  · exact .refl input name
  · exact (List.pairwise_cons.mp inOrder).1 name later

/-- The names that are like the input at all, best first. -/
def ordered (input : Text) (threshold : Limit) (names : List Text) : List Text :=
  (candidates input threshold names).map Candidate.name

theorem mem_candidates {candidate : Candidate} :
    candidate ∈ candidates input threshold names ↔
      candidate.name ∈ names ∧ candidate = .of input candidate.name ∧
        threshold.reachedBy candidate.likeness = true := by
  rw [candidates, (List.mergeSort_perm _ _).mem_iff, List.mem_filter, List.mem_map]
  constructor
  · rintro ⟨⟨name, member, rfl⟩, like⟩
    exact ⟨member, rfl, like⟩
  · rintro ⟨member, whole, like⟩
    exact ⟨⟨candidate.name, member, whole.symm⟩, like⟩

theorem candidates_eq_map (input : Text) (threshold : Limit) (names : List Text) :
    candidates input threshold names = (ordered input threshold names).map (.of input) := by
  rw [ordered, List.map_map]
  refine (List.map_id _).symm.trans (List.map_congr_left fun candidate member => ?_)
  exact (mem_candidates.mp member).2.1

theorem mem_ordered_iff :
    name ∈ ordered input threshold names ↔
      name ∈ names ∧ threshold.reachedBy (Candidate.of input name).likeness = true := by
  rw [ordered, List.mem_map]
  constructor
  · rintro ⟨candidate, member, rfl⟩
    obtain ⟨known, whole, like⟩ := mem_candidates.mp member
    exact ⟨known, whole ▸ like⟩
  · rintro ⟨known, like⟩
    exact ⟨.of input name, mem_candidates.mpr ⟨known, rfl, like⟩, rfl⟩

theorem pairwise_ordered (input : Text) (threshold : Limit) (names : List Text) :
    (ordered input threshold names).Pairwise (Ahead input) := by
  have sorted : (candidates input threshold names).Pairwise fun left right =>
      left.precedes right = true :=
    List.pairwise_mergeSort Candidate.precedes_trans Candidate.precedes_total _
  rw [candidates_eq_map, List.pairwise_map] at sorted
  exact sorted

/-- The names among those in order that are near the best. -/
def nearest (input : Text) (window : Limit) : List Text → List Text
  | [] => []
  | best :: rest =>
      (best :: rest).takeWhile fun name =>
        !window.exceededBy ((Candidate.of input best).likeness.sub (Candidate.of input name).likeness)

theorem rank_eq (input : Text) (names : List Text) (threshold window : Limit) :
    rank input names threshold window =
      distinctNames [] (nearest input window (ordered input threshold names)) := by
  rw [rank, candidates_eq_map]
  cases ordered input threshold names with
  | nil => rfl
  | cons best rest =>
      rw [List.map_cons]
      simp only
      rw [← List.map_cons, List.takeWhile_map, List.map_map]
      exact congrArg _ (List.map_id _)

/-- Of names in order those are taken in front of which, and with which, a test never fails. -/
theorem mem_takeWhile_iff {sorted : List Text} (inOrder : sorted.Pairwise (Ahead input))
    (test : Text → Bool) :
    name ∈ sorted.takeWhile test ↔
      name ∈ sorted ∧ ∀ other ∈ sorted, Ahead input other name → test other = true := by
  induction sorted with
  | nil => simp
  | cons first rest inductionHypothesis =>
      obtain ⟨leads, inOrderRest⟩ := List.pairwise_cons.mp inOrder
      cases passes : test first with
      | false =>
          simp only [List.takeWhile_cons, passes, Bool.false_eq_true, if_false, List.not_mem_nil,
            false_iff]
          rintro ⟨member, all⟩
          have failed := all first List.mem_cons_self (ahead_of_mem inOrder member)
          exact absurd failed (by simp [passes])
      | true =>
          rw [List.takeWhile_cons, if_pos passes, List.mem_cons, inductionHypothesis inOrderRest,
            List.mem_cons, List.forall_mem_cons]
          constructor
          · rintro (rfl | ⟨member, all⟩)
            · refine ⟨.inl rfl, fun _ => passes, fun other later ahead => ?_⟩
              rwa [ahead.antisymm (leads other later)]
            · exact ⟨.inr member, fun _ => passes, all⟩
          · rintro ⟨rfl | member, _, all⟩
            · exact .inl rfl
            · exact .inr ⟨member, all⟩

/-- Of names in order the first of each spelling is kept. -/
theorem mem_distinctNames_iff {sorted : List Text} (inOrder : sorted.Pairwise (Ahead input)) :
    name ∈ distinctNames chosen sorted ↔
      name ∈ sorted ∧ (∀ other ∈ chosen, Text.sameName other name = false) ∧
        ∀ other ∈ sorted, Text.sameName other name = true → Ahead input name other := by
  induction sorted generalizing chosen with
  | nil => simp [distinctNames]
  | cons first rest inductionHypothesis =>
      obtain ⟨leads, inOrderRest⟩ := List.pairwise_cons.mp inOrder
      rw [distinctNames, List.forall_mem_cons, List.mem_cons]
      split
      · rename_i spelled
        obtain ⟨known, among, same⟩ := List.any_eq_true.mp spelled
        rw [inductionHypothesis inOrderRest]
        constructor
        · rintro ⟨member, fresh, earliest⟩
          refine ⟨.inr member, fresh, fun sameFirst => ?_, earliest⟩
          exact absurd (Text.sameName_trans same sameFirst) (by simp [fresh known among])
        · rintro ⟨rfl | member, fresh, _, earliest⟩
          · exact absurd same (by simp [fresh known among])
          · exact ⟨member, fresh, earliest⟩
      · rename_i unspelled
        rw [List.mem_cons, inductionHypothesis inOrderRest, List.forall_mem_cons]
        constructor
        · rintro (rfl | ⟨member, ⟨differs, fresh⟩, earliest⟩)
          · refine ⟨.inl rfl, ?_, fun _ => .refl input name, fun other later _ => leads other later⟩
            simpa using unspelled
          · exact ⟨.inr member, fresh, fun same => by simp [differs] at same, earliest⟩
        · rintro ⟨rfl | member, fresh, earliestFirst, earliest⟩
          · exact .inl rfl
          · by_cases same : Text.sameName first name = true
            · exact .inl ((earliestFirst same).antisymm (leads name member))
            · exact .inr ⟨member, ⟨Bool.eq_false_iff.mpr same, fresh⟩, earliest⟩

theorem distinctNames_sublist (chosen names : List Text) :
    (distinctNames chosen names).Sublist names := by
  induction names generalizing chosen with
  | nil => exact List.Sublist.refl _
  | cons name rest inductionHypothesis =>
      rw [distinctNames]
      split
      · exact (inductionHypothesis chosen).cons name
      · exact (inductionHypothesis _).cons_cons name

theorem sameName_chosen_of_mem (member : name ∈ distinctNames chosen names) :
    ∀ other ∈ chosen, Text.sameName other name = false := by
  induction names generalizing chosen with
  | nil => cases member
  | cons first rest inductionHypothesis =>
      rw [distinctNames] at member
      split at member
      · exact inductionHypothesis member
      · rename_i unspelled
        rcases List.mem_cons.mp member with rfl | later
        · simpa using unspelled
        · exact (List.forall_mem_cons.mp (inductionHypothesis later)).2

/-- No two of the names that are kept are spellings of one. -/
theorem pairwise_distinctNames (chosen names : List Text) :
    (distinctNames chosen names).Pairwise fun name other => Text.sameName name other = false := by
  induction names generalizing chosen with
  | nil => exact .nil
  | cons first rest inductionHypothesis =>
      rw [distinctNames]
      split
      · exact inductionHypothesis chosen
      · refine .cons (fun other later => ?_) (inductionHypothesis _)
        exact sameName_chosen_of_mem later first List.mem_cons_self

theorem nodup_distinctNames (chosen names : List Text) : (distinctNames chosen names).Nodup :=
  (pairwise_distinctNames chosen names).imp fun differs same => by
    simp [same, Text.sameName] at differs

/-- Names in order are the same names near the best if they are the same names. -/
theorem mem_nearest_congr {sorted other : List Text} (inOrder : sorted.Pairwise (Ahead input))
    (inOrderOther : other.Pairwise (Ahead input)) (same : ∀ name, name ∈ sorted ↔ name ∈ other) :
    name ∈ nearest input window sorted ↔ name ∈ nearest input window other := by
  cases sorted with
  | nil =>
      obtain rfl : other = [] := List.eq_nil_iff_forall_not_mem.mpr fun name => by simp [← same]
      rfl
  | cons best rest =>
      cases other with
      | nil => exact absurd ((same best).mp List.mem_cons_self) List.not_mem_nil
      | cons bestOther restOther =>
          have ahead := ahead_of_mem inOrderOther ((same best).mp List.mem_cons_self)
          have behind := ahead_of_mem inOrder ((same bestOther).mpr List.mem_cons_self)
          obtain rfl := ahead.antisymm behind
          rw [nearest, nearest, mem_takeWhile_iff inOrder, mem_takeWhile_iff inOrderOther]
          simp only [same]

theorem nearest_sublist (input : Text) (window : Limit) (sorted : List Text) :
    (nearest input window sorted).Sublist sorted := by
  cases sorted with
  | nil => exact List.Sublist.refl _
  | cons best rest => exact List.takeWhile_sublist _

/-- Which names there are determines what is suggested. -/
theorem rank_congr (input : Text) (threshold window : Limit)
    (same : ∀ name, name ∈ names ↔ name ∈ others) :
    rank input names threshold window = rank input others threshold window := by
  have inOrder (names : List Text) :
      (nearest input window (ordered input threshold names)).Pairwise (Ahead input) :=
    (pairwise_ordered input threshold names).sublist (nearest_sublist input window _)
  have sameNearest (name : Text) :
      name ∈ nearest input window (ordered input threshold names) ↔
        name ∈ nearest input window (ordered input threshold others) :=
    mem_nearest_congr (pairwise_ordered input threshold names)
      (pairwise_ordered input threshold others) fun name => by simp only [mem_ordered_iff, same]
  rw [rank_eq, rank_eq]
  refine List.Perm.eq_of_pairwise (fun _ _ _ _ => Ahead.antisymm)
    ((inOrder names).sublist (distinctNames_sublist _ _))
    ((inOrder others).sublist (distinctNames_sublist _ _)) ?_
  rw [List.perm_ext_iff_of_nodup (nodup_distinctNames _ _) (nodup_distinctNames _ _)]
  intro name
  rw [mem_distinctNames_iff (inOrder names), mem_distinctNames_iff (inOrder others)]
  simp only [sameNearest]

/-- Lists of the same names, in any order and with any repetitions, give the same suggestions, among
which no two are spellings of one name. -/
theorem rank_same_names (input : Text) (threshold window : Limit)
    (same : ∀ name, name ∈ names ↔ name ∈ others) :
    rank input names threshold window = rank input others threshold window ∧
      (rank input names threshold window).Pairwise fun name other =>
        Text.sameName name other = false := by
  refine ⟨rank_congr input threshold window same, ?_⟩
  rw [rank_eq]
  exact pairwise_distinctNames _ _

/-- Of the spellings of a name the first in the order of characters is suggested, wherever it
stands. -/
theorem rank_same_names_spellings :
    let names : List Text := ["Snap", "SNAP", "Stop", "snap", "Snap", "Snip"]
    let others : List Text := ["SNAP", "Snap", "Snip", "snap", "Stop"]
    (∀ name, name ∈ names ↔ name ∈ others) ∧
      rank "Snp" names defaultThreshold defaultWindow =
        rank "Snp" others defaultThreshold defaultWindow ∧
      rank "Snp" names defaultThreshold defaultWindow = (["SNAP", "Snip"] : List Text) := by
  intro names others
  have within : ∀ name ∈ names, name ∈ others := by decide
  have contains : ∀ name ∈ others, name ∈ names := by decide
  have same : ∀ name, name ∈ names ↔ name ∈ others := fun name => ⟨within name, contains name⟩
  have equal := (rank_same_names "Snp" defaultThreshold defaultWindow same).1
  refine ⟨same, equal, equal.trans ?_⟩
  rw [rank, candidates, List.mergeSort_of_pairwise (by decide +kernel)]
  decide +kernel

end Suggestion

namespace Interpreter

variable {σ : Type} {interpreter other : Interpreter σ}

/-- The same components suggest the same, in whatever order they were registered. -/
theorem suggest_congr (same : ∀ root, root ∈ interpreter.components ↔ root ∈ other.components)
    (options : interpreter.options = other.options) (input : Text) :
    interpreter.suggest input = other.suggest input := by
  rw [suggest, suggest, options]
  refine Suggestion.rank_congr _ _ _ fun name => ?_
  simp only [knownNames, List.mem_append, List.mem_flatMap, Prod.exists, Component.mem_walk_iff, same]

end Interpreter

end CommandLink
