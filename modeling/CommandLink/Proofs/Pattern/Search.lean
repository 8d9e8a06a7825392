import CommandLink.Pattern.Search

/-!
# What a search finds

A machine goes from spot to spot, a spot being an instruction and a place in the text. A search marks
the spots that it has tried and never tries one twice. Nothing is lost by that: whatever a marked spot
leads to is marked or still waits to be tried (`Settled`), so that in the end no marked spot accepts,
unless the search has found a match (`outcome_run`). Hence a search finds a match exactly if some place
leads to acceptance (`isSome_find?_iff`).
-/

namespace CommandLink.Search

/-- An instruction and a place in the text. -/
abbrev Spot := Nat × Nat

/-- Where a thread is. Its marks of the first group have no part in where it can go. -/
def Thread.spot (thread : Thread) : Spot :=
  (thread.instruction, thread.place)

namespace Machine

variable {machine : Machine} {spot other next : Spot} {instruction : Instruction}
  {tried : Array Bool} {waiting rest : List Spot}

/-- The spots that an instruction leads to. -/
def nextSpots (machine : Machine) (spot : Spot) (instruction : Instruction) : List Spot :=
  (machine.step { instruction := spot.1, place := spot.2 } instruction).map Thread.spot

theorem map_spot_step (thread : Thread) :
    (machine.step thread instruction).map Thread.spot =
      machine.nextSpots thread.spot instruction := by
  cases instruction with
  | take set =>
      simp only [nextSpots, step, Thread.spot]
      split
      · split <;> rfl
      · rfl
  | look look =>
      by_cases holds : look.holds (machine.before? thread.place) machine.text[thread.place]? = true <;>
        simp [nextSpots, step, Thread.spot, Thread.go, holds]
  | fork | jump | openGroup | closeGroup | accept => rfl

/-- At most two ways lead on from a spot. -/
theorem length_step_le (thread : Thread) : (machine.step thread instruction).length ≤ 2 := by
  unfold step
  split
  · split
    · split <;> simp
    · simp
  · split <;> simp
  all_goals simp

/-- No way leads out of the text. -/
theorem place_le_of_mem_nextSpots (inText : spot.2 ≤ machine.text.size)
    (leads : next ∈ machine.nextSpots spot instruction) : next.2 ≤ machine.text.size := by
  cases instruction with
  | take set =>
      simp only [nextSpots, step] at leads
      cases taken : machine.text[spot.2]? with
      | none => simp [taken] at leads
      | some c =>
          have below : spot.2 < machine.text.size := (Array.getElem?_eq_some_iff.mp taken).1
          cases contained : set.contains c with
          | false => simp [taken, contained] at leads
          | true =>
              simp only [taken, contained, if_true, List.map_singleton, List.mem_singleton] at leads
              rw [leads]
              exact below
  | look look =>
      simp only [nextSpots, step] at leads
      split at leads
      · rw [List.map_singleton, List.mem_singleton] at leads
        rw [leads]
        exact inText
      · cases leads
  | fork first second =>
      simp only [nextSpots, step, List.map_cons, List.map_nil, List.mem_cons, List.not_mem_nil,
        or_false] at leads
      rcases leads with rfl | rfl <;> exact inText
  | jump | openGroup | closeGroup =>
      simp only [nextSpots, step, List.map_singleton, List.mem_singleton] at leads
      rw [leads]
      exact inText
  | accept => cases leads

/-- Some way from a spot leads to acceptance. -/
inductive Accepts (machine : Machine) : Spot → Prop where
  | here {spot : Spot} (found : machine.program[spot.1]? = some .accept) : Accepts machine spot
  | onward {spot next : Spot} {instruction : Instruction}
      (found : machine.program[spot.1]? = some instruction)
      (leads : next ∈ machine.nextSpots spot instruction) (later : Accepts machine next) :
      Accepts machine spot

/-- The index of the mark of a spot. -/
def markOf (machine : Machine) (spot : Spot) : Nat :=
  spot.1 * (machine.text.size + 1) + spot.2

theorem markOf_inj (inText : spot.2 ≤ machine.text.size) (inTextOther : other.2 ≤ machine.text.size)
    (same : machine.markOf spot = machine.markOf other) : spot = other := by
  have places (spot : Spot) (inText : spot.2 ≤ machine.text.size) :
      machine.markOf spot % (machine.text.size + 1) = spot.2 := by
    rw [markOf, Nat.add_comm, Nat.add_mul_mod_self_right, Nat.mod_eq_of_lt (by omega)]
  have instructions (spot : Spot) (inText : spot.2 ≤ machine.text.size) :
      machine.markOf spot / (machine.text.size + 1) = spot.1 := by
    rw [markOf, Nat.add_comm, Nat.add_mul_div_right _ _ (Nat.succ_pos _),
      Nat.div_eq_of_lt (by omega), Nat.zero_add]
  refine Prod.ext ?_ ?_
  · rw [← instructions spot inText, same, instructions other inTextOther]
  · rw [← places spot inText, same, places other inTextOther]

/-- Whether a spot is passed over: it was tried, or there is no such instruction. -/
def Marked (machine : Machine) (tried : Array Bool) (spot : Spot) : Prop :=
  tried.getD (machine.markOf spot) true = true

/-- Marking a spot marks that index and no other. -/
theorem marked_set_iff :
    machine.Marked (tried.setIfInBounds (machine.markOf spot) true) other ↔
      machine.markOf other = machine.markOf spot ∨ machine.Marked tried other := by
  simp only [Marked, Array.getD_eq_getD_getElem?, Array.getElem?_setIfInBounds]
  by_cases same : machine.markOf other = machine.markOf spot
  · simp only [same, if_true, true_or, iff_true]
    split <;> simp
  · simp [same, Ne.symm same]

/-- A mark is one spot less to be tried. -/
theorem count_false_set (fresh : ¬ machine.Marked tried spot) :
    (tried.setIfInBounds (machine.markOf spot) true).count false + 1 = tried.count false := by
  have unset : tried[machine.markOf spot]? = some false := by
    cases found : tried[machine.markOf spot]? with
    | none => simp [Marked, Array.getD_eq_getD_getElem?, found] at fresh
    | some mark => cases mark <;> simp_all [Marked, Array.getD_eq_getD_getElem?]
  obtain ⟨inBounds, value⟩ := Array.getElem?_eq_some_iff.mp unset
  have some : 0 < tried.count false := Array.count_pos_iff.mpr (value ▸ Array.getElem_mem inBounds)
  rw [Array.setIfInBounds, dif_pos inBounds, Array.count_set, value]
  simpa using Nat.sub_add_cancel some

/-- What is known in the middle of a search. -/
structure Settled (machine : Machine) (tried : Array Bool) (waiting : List Spot) : Prop where
  size_eq : tried.size = machine.size
  inText : ∀ spot ∈ waiting, spot.2 ≤ machine.text.size
  /-- A marked spot does not accept, and what it leads to is marked or waits. -/
  closed : ∀ spot : Spot, spot.2 ≤ machine.text.size → machine.Marked tried spot →
    ∀ instruction, machine.program[spot.1]? = some instruction →
      machine.program[spot.1]? ≠ some .accept ∧
        ∀ next ∈ machine.nextSpots spot instruction, machine.Marked tried next ∨ next ∈ waiting

/-- Where nothing waits, no marked spot leads to acceptance. -/
theorem Settled.not_accepts (settled : machine.Settled tried [])
    (inText : spot.2 ≤ machine.text.size) (marked : machine.Marked tried spot) :
    ¬ machine.Accepts spot := by
  intro accepts
  induction accepts with
  | here found => exact (settled.closed _ inText marked _ found).1 found
  | onward found leads _ inductionHypothesis =>
      have markedNext := (settled.closed _ inText marked _ found).2 _ leads
      exact inductionHypothesis (place_le_of_mem_nextSpots inText leads)
        (markedNext.resolve_right List.not_mem_nil)

/-- A spot that is marked need not be tried. -/
theorem Settled.pass (settled : machine.Settled tried (spot :: rest))
    (marked : machine.Marked tried spot) : machine.Settled tried rest where
  size_eq := settled.size_eq
  inText other among := settled.inText other (List.mem_cons_of_mem _ among)
  closed other inText markedOther instruction found := by
    obtain ⟨refuses, leads⟩ := settled.closed other inText markedOther instruction found
    refine ⟨refuses, fun next among => ?_⟩
    rcases leads next among with markedNext | waits
    · exact .inl markedNext
    · rcases List.mem_cons.mp waits with rfl | later
      · exact .inl marked
      · exact .inr later

/-- A spot that does not accept is marked once what it leads to waits. -/
theorem Settled.mark (settled : machine.Settled tried (spot :: rest))
    (fresh : ¬ machine.Marked tried spot) (nexts : List Spot)
    (refuses : machine.program[spot.1]? ≠ some .accept)
    (leads : ∀ instruction, machine.program[spot.1]? = some instruction →
      machine.nextSpots spot instruction = nexts)
    (inTextNexts : ∀ next ∈ nexts, next.2 ≤ machine.text.size) :
    machine.Settled (tried.setIfInBounds (machine.markOf spot) true) (nexts ++ rest) where
  size_eq := by rw [Array.size_setIfInBounds, settled.size_eq]
  inText next among := by
    rcases List.mem_append.mp among with later | later
    · exact inTextNexts next later
    · exact settled.inText next (List.mem_cons_of_mem _ later)
  closed other inText marked instruction found := by
    simp only [marked_set_iff] at marked ⊢
    rcases marked with same | marked
    · obtain rfl := markOf_inj inText (settled.inText spot List.mem_cons_self) same
      refine ⟨refuses, fun next among => .inr ?_⟩
      exact List.mem_append_left _ (leads instruction found ▸ among)
    · obtain ⟨refusesOther, leadsOther⟩ := settled.closed other inText marked instruction found
      refine ⟨refusesOther, fun next among => ?_⟩
      rcases leadsOther next among with markedNext | waits
      · exact .inl (.inr markedNext)
      · rcases List.mem_cons.mp waits with rfl | later
        · exact .inl (.inl rfl)
        · exact .inr (List.mem_append_right _ later)

/-- What a run of threads comes to: a match, and then one of the threads leads to acceptance, or
nothing waits any more and all threads are marked, as is all that was. -/
inductive Outcome (machine : Machine) (tried : Array Bool) (threads : List Thread) :
    Except (Array Bool) Match → Prop where
  | found {found : Match} {thread : Thread} (among : thread ∈ threads)
      (accepts : machine.Accepts thread.spot) : Outcome machine tried threads (.ok found)
  | exhausted {later : Array Bool} (settled : machine.Settled later [])
      (marked : ∀ thread ∈ threads, machine.Marked later thread.spot)
      (kept : ∀ spot, machine.Marked tried spot → machine.Marked later spot) :
      Outcome machine tried threads (.error later)

variable {thread : Thread} {threads : List Thread} {result : Except (Array Bool) Match}

/-- A thread at a marked spot makes no difference. -/
theorem Outcome.pass (marked : machine.Marked tried thread.spot)
    (outcome : machine.Outcome tried threads result) :
    machine.Outcome tried (thread :: threads) result := by
  cases outcome with
  | found among accepts => exact .found (List.mem_cons_of_mem _ among) accepts
  | exhausted settled markedThreads kept =>
      exact .exhausted settled (List.forall_mem_cons.mpr ⟨kept _ marked, markedThreads⟩) kept

/-- The threads that a thread leads to may run in its stead. -/
theorem Outcome.replace (nexts : List Thread)
    (leads : ∀ next ∈ nexts, machine.Accepts next.spot → machine.Accepts thread.spot)
    (outcome : machine.Outcome (tried.setIfInBounds (machine.markOf thread.spot) true)
      (nexts ++ threads) result) :
    machine.Outcome tried (thread :: threads) result := by
  cases outcome with
  | found among accepts =>
      rcases List.mem_append.mp among with next | later
      · exact .found List.mem_cons_self (leads _ next accepts)
      · exact .found (List.mem_cons_of_mem _ later) accepts
  | exhausted settled marked kept =>
      rw [List.forall_mem_append] at marked
      have keptAll (spot : Spot) (known : machine.Marked tried spot) :=
        kept spot (marked_set_iff.mpr (.inr known))
      have markedThread := kept thread.spot (marked_set_iff.mpr (.inl rfl))
      exact .exhausted settled (List.forall_mem_cons.mpr ⟨markedThread, marked.2⟩) keptAll

theorem run_of_marked (first fuel : Nat) (marked : machine.Marked tried thread.spot) :
    machine.run first (fuel + 1) tried (thread :: threads) = machine.run first fuel tried threads := by
  rw [run]
  exact if_pos marked

theorem run_of_missing (first fuel : Nat) (fresh : ¬ machine.Marked tried thread.spot)
    (missing : machine.program[thread.instruction]? = none) :
    machine.run first (fuel + 1) tried (thread :: threads) =
      machine.run first fuel (tried.setIfInBounds (machine.markOf thread.spot) true) threads := by
  rw [run]
  refine (if_neg fresh).trans ?_
  rw [missing]
  rfl

theorem run_of_accept (first fuel : Nat) (fresh : ¬ machine.Marked tried thread.spot)
    (accepting : machine.program[thread.instruction]? = some .accept) :
    machine.run first (fuel + 1) tried (thread :: threads) =
      .ok ⟨first, thread.place, thread.group?⟩ := by
  rw [run]
  refine (if_neg fresh).trans ?_
  rw [accepting]

theorem run_of_instruction (first fuel : Nat) (fresh : ¬ machine.Marked tried thread.spot)
    (found : machine.program[thread.instruction]? = some instruction)
    (refuses : instruction ≠ .accept) :
    machine.run first (fuel + 1) tried (thread :: threads) =
      machine.run first fuel (tried.setIfInBounds (machine.markOf thread.spot) true)
        (machine.step thread instruction ++ threads) := by
  rw [run]
  refine (if_neg fresh).trans ?_
  rw [found]
  cases instruction with
  | accept => exact absurd rfl refuses
  | take | look | fork | jump | openGroup | closeGroup => rfl

/-- A run ends in one of these ways if its fuel is enough: one turn for each thread, and two for each
spot that is not marked. -/
theorem outcome_run (first : Nat) {fuel : Nat}
    (settled : machine.Settled tried (threads.map Thread.spot))
    (enough : threads.length + 2 * tried.count false < fuel) :
    machine.Outcome tried threads (machine.run first fuel tried threads) := by
  induction fuel generalizing tried threads with
  | zero => exact absurd enough (Nat.not_lt_zero _)
  | succ fuel inductionHypothesis =>
      cases threads with
      | nil =>
          rw [run]
          · exact .exhausted settled (List.forall_mem_nil _) fun _ => id
          · exact Nat.succ_ne_zero fuel
      | cons thread rest =>
          rw [List.map_cons] at settled
          rw [List.length_cons] at enough
          by_cases marked : machine.Marked tried thread.spot
          · rw [run_of_marked first fuel marked]
            exact .pass marked (inductionHypothesis (settled.pass marked) (by omega))
          have fewer := count_false_set marked
          cases found : machine.program[thread.instruction]? with
          | none =>
              rw [run_of_missing first fuel marked found]
              have settledMore := settled.mark marked [] (by simp [Thread.spot, found])
                (by simp [Thread.spot, found]) (List.forall_mem_nil _)
              refine .replace [] (List.forall_mem_nil _) ?_
              exact inductionHypothesis settledMore (by simp only [List.nil_append]; omega)
          | some instruction =>
              by_cases accepting : instruction = .accept
              · rw [accepting] at found
                rw [run_of_accept first fuel marked found]
                exact .found List.mem_cons_self (.here found)
              rw [run_of_instruction first fuel marked found accepting]
              have known : machine.program[thread.spot.1]? = some instruction := found
              have nextSpots : (machine.step thread instruction).map Thread.spot =
                  machine.nextSpots thread.spot instruction := map_spot_step thread
              have inText : thread.spot.2 ≤ machine.text.size :=
                settled.inText _ List.mem_cons_self
              have settledMore := settled.mark marked (machine.nextSpots thread.spot instruction)
                (fun accepts => accepting (Option.some.inj (known.symm.trans accepts)))
                (fun other foundOther => by rw [Option.some.inj (known.symm.trans foundOther)])
                (fun next among => place_le_of_mem_nextSpots inText among)
              rw [← nextSpots, ← List.map_append] at settledMore
              have short : (machine.step thread instruction).length ≤ 2 := length_step_le thread
              refine .replace (machine.step thread instruction) ?_ ?_
              · intro next among accepts
                exact .onward known (nextSpots ▸ List.mem_map_of_mem among) accepts
              · exact inductionHypothesis settledMore (by rw [List.length_append]; omega)

/-- Before a search nothing is marked but what is no instruction of the program. -/
theorem settled_replicate (machine : Machine) :
    machine.Settled (Array.replicate machine.size false) [] where
  size_eq := Array.size_replicate
  inText := List.forall_mem_nil _
  closed spot inText marked instruction found := by
    have inProgram : spot.1 < machine.program.size := (Array.getElem?_eq_some_iff.mp found).1
    have inBounds : machine.markOf spot < machine.size := by
      have row := Nat.mul_le_mul_right (machine.text.size + 1) (Nat.succ_le_of_lt inProgram)
      rw [Nat.succ_mul] at row
      rw [markOf, size]
      omega
    simp [Marked, Array.getD_eq_getD_getElem?, inBounds] at marked

/-- A search from several places on goes on with the marks it has made. -/
theorem isSome_runFrom_iff {first count : Nat} (settled : machine.Settled tried [])
    (inText : first + count ≤ machine.text.size + 1) :
    (machine.runFrom tried first count).isSome = true ↔
      ∃ place, first ≤ place ∧ place < first + count ∧ machine.Accepts (0, place) := by
  induction count generalizing tried first with
  | zero =>
      simp only [runFrom, Option.isSome_none, Bool.false_eq_true, false_iff]
      rintro ⟨place, notBefore, below, -⟩
      omega
  | succ count inductionHypothesis =>
      let thread : Thread := { instruction := 0, place := first }
      have waits : machine.Settled tried ([thread].map Thread.spot) :=
        { settled with
          inText := List.forall_mem_singleton.mpr (show first ≤ machine.text.size by omega)
          closed := fun spot inText marked instruction found => by
            obtain ⟨refuses, leads⟩ := settled.closed spot inText marked instruction found
            exact ⟨refuses, fun next among => .inl ((leads next among).resolve_right List.not_mem_nil)⟩ }
      have most : tried.count false ≤ machine.size := settled.size_eq ▸ Array.count_le_size
      have outcome : machine.Outcome tried [thread]
          (machine.run first (2 * machine.size + 2) tried [thread]) :=
        outcome_run first waits (by simp only [List.length_singleton]; omega)
      rw [runFrom]
      generalize machine.run first (2 * machine.size + 2) tried [thread] = result at outcome
      cases outcome with
      | found among accepts =>
          rw [List.mem_singleton] at among
          subst among
          exact iff_of_true rfl ⟨first, Nat.le_refl _, by omega, accepts⟩
      | exhausted settledLater marked _ =>
          have refuses : ¬ machine.Accepts (0, first) :=
            settledLater.not_accepts (by simp only; omega) (marked thread (List.mem_singleton_self _))
          rw [inductionHypothesis settledLater (by omega)]
          constructor
          · rintro ⟨place, notBefore, below, accepts⟩
            exact ⟨place, by omega, by omega, accepts⟩
          · rintro ⟨place, notBefore, below, accepts⟩
            rcases Nat.eq_or_lt_of_le notBefore with rfl | later
            · exact absurd accepts refuses
            · exact ⟨place, later, by omega, accepts⟩

/-- A search finds a match exactly if some place from which it searches leads to acceptance. -/
theorem isSome_find?_iff (machine : Machine) {first : Nat} (inText : first ≤ machine.text.size) :
    (machine.find? first).isSome = true ↔
      ∃ place, first ≤ place ∧ place ≤ machine.text.size ∧ machine.Accepts (0, place) := by
  rw [find?, isSome_runFrom_iff machine.settled_replicate (by omega)]
  refine exists_congr fun place => and_congr_right fun _ => and_congr_left fun _ => ?_
  omega

end Machine

end CommandLink.Search
