import CommandLink.Proofs.Framing.Conservation
import CommandLink.Proofs.Pattern.Looks

/-!
# Matches that are overlooked

A push looks for the pattern in all that is pending, and only where it finds none are messages cut off
at terminators. What then stays pending is not looked at again, although it may match by itself: a
match that nothing but the text in front of it prevented is overlooked until the next fragment or a
timeout. `CutsRevealNone` says that there is no such match, and it is exactly the condition under
which nothing is ever overlooked (`overlooks_nothing_iff`). It holds for every pattern that takes the
terminators for the start of a text wherever it looks back.
-/

namespace CommandLink

namespace Pattern

variable {pattern : Pattern} {pending : Text}

/-- Text that is pending although it matches. -/
def Overlooked (pattern : Pattern) (pending : Text) : Prop :=
  pending ≠ [] ∧ pattern.OccursIn pending

instance (pattern : Pattern) (pending : Text) : Decidable (pattern.Overlooked pending) :=
  inferInstanceAs (Decidable (_ ∧ _))

theorem not_overlooked_nil : ¬ pattern.Overlooked [] :=
  fun overlooked => overlooked.1 rfl

end Pattern

namespace Framer

/-- What can be done with a frame buffer. -/
inductive Request where
  | push (fragment : Text)
  | flush
  | clear
deriving DecidableEq, Repr

/-- What is pending after a request. -/
def pendingAfter (framer : Framer) (pending : Text) : Request → Text
  | .push fragment => (framer.push fragment pending).2
  | .flush | .clear => []

/-- What is pending in a fresh buffer after requests one after another. -/
def pendingAfterAll (framer : Framer) (requests : List Request) : Text :=
  requests.foldl framer.pendingAfter []

/-- No text matches after a terminator that would not match with all that stands in front. -/
def CutsRevealNone (framer : Framer) (pattern : Pattern) : Prop :=
  ∀ front c tail, framer.ends c = true → (∀ d ∈ tail, framer.ends d = false) →
    pattern.Overlooked tail → pattern.OccursIn (front ++ c :: tail)

variable {framer : Framer} {pattern : Pattern} {pending : Text}

theorem pendingAfterAll_concat (requests : List Request) (request : Request) :
    framer.pendingAfterAll (requests ++ [request]) =
      framer.pendingAfter (framer.pendingAfterAll requests) request :=
  List.foldl_concat ..

/-- A terminator stands in front of the tail, unless there is none. -/
theorem tail_cases (framer : Framer) (text : Text) :
    framer.tail text = text ∨
      ∃ front c, framer.ends c = true ∧ text = front ++ c :: framer.tail text := by
  induction text using List.reverseRecOn with
  | nil => exact .inl (framer.tail_eq_self (List.forall_mem_nil _))
  | append_singleton text last inductionHypothesis =>
      cases isEnd : framer.ends last with
      | true => exact .inr ⟨text, last, isEnd, by rw [framer.tail_concat_of_ends text isEnd]⟩
      | false =>
          rw [framer.tail_concat_of_not_ends text isEnd]
          rcases inductionHypothesis with whole | ⟨front, c, isEnd, whole⟩
          · exact .inl (by rw [whole])
          · refine .inr ⟨front, c, isEnd, ?_⟩
            rw [← List.cons_append, ← List.append_assoc, ← whole]

/-- Where the pattern matches, nothing stays pending. -/
theorem push_of_occursIn (found : framer.pattern? = some pattern) {fragment : Text}
    (occurs : pattern.OccursIn (pending ++ fragment)) : (framer.push fragment pending).2 = [] := by
  obtain ⟨message, first⟩ := Option.isSome_iff_exists.mp occurs
  simp [push, found, first]

/-- Where it does not, the tail stays pending. -/
theorem push_of_not_occursIn (found : framer.pattern? = some pattern) {fragment : Text}
    (absent : ¬ pattern.OccursIn (pending ++ fragment)) :
    (framer.push fragment pending).2 = framer.tail (pending ++ fragment) := by
  have none : pattern.firstMatch? (pending ++ fragment) = none := by
    simpa [Pattern.OccursIn] using absent
  simp only [push, found, Option.bind_some, none]
  exact (Chunk.divides_ofText framer (pending ++ fragment)).unfinished_eq

/-- If cuts reveal no match, a push overlooks none. -/
theorem CutsRevealNone.push (reveals : framer.CutsRevealNone pattern)
    (found : framer.pattern? = some pattern) (fragment pending : Text) :
    ¬ pattern.Overlooked (framer.push fragment pending).2 := by
  by_cases occurs : pattern.OccursIn (pending ++ fragment)
  · rw [push_of_occursIn found occurs]
    exact Pattern.not_overlooked_nil
  · rw [push_of_not_occursIn found occurs]
    intro overlooked
    rcases framer.tail_cases (pending ++ fragment) with whole | ⟨front, c, isEnd, whole⟩
    · exact occurs (whole ▸ overlooked.2)
    · exact occurs (whole ▸ reveals front c _ isEnd framer.not_ends_of_mem_tail overlooked)

/-- If cuts reveal a match, a single push into an empty buffer can overlook it. -/
theorem cutsRevealNone_of_push (found : framer.pattern? = some pattern)
    (unmatched : ∀ fragment, ¬ pattern.Overlooked (framer.push fragment []).2) :
    framer.CutsRevealNone pattern := by
  intro front c tail isEnd inside overlooked
  by_contra absent
  have kept : (framer.push (front ++ c :: tail) []).2 = framer.tail (front ++ c :: tail) :=
    push_of_not_occursIn found absent
  have cut : framer.tail (front ++ c :: tail) = tail := by
    rw [← List.singleton_append, ← List.append_assoc, framer.tail_append,
      framer.tail_concat_of_ends front isEnd, List.nil_append, framer.tail_eq_self inside]
  exact unmatched (front ++ c :: tail) (by rwa [kept, cut])

end Framer

namespace TimedBuffer

variable {framer : Framer} {pattern : Pattern}

/-- If cuts reveal no match, none waits for a timeout. -/
theorem not_overlooked_after (reveals : framer.CutsRevealNone pattern)
    (found : framer.pattern? = some pattern) (events : List Event) :
    ¬ pattern.Overlooked (after framer events).pending := by
  induction events using List.reverseRecOn with
  | nil => exact Pattern.not_overlooked_nil
  | append_singleton events event inductionHypothesis =>
      rw [after_concat]
      cases event with
      | append fragment =>
          rw [perform, pending_append]
          exact reveals.push found fragment _
      | start | stop => exact Pattern.not_overlooked_nil
      | expire kind token =>
          rw [perform, expire]
          split
          · exact Pattern.not_overlooked_nil
          · exact inductionHypothesis
      | pass milliseconds => exact inductionHypothesis
      | wait milliseconds =>
          rw [perform]
          obtain ⟨kind, timer, _, _, fired⟩ | ⟨_, idle⟩ :=
            wait_cases framer milliseconds (after framer events)
          · rw [fired]
            exact Pattern.not_overlooked_nil
          · rw [idle]
            exact inductionHypothesis

end TimedBuffer

namespace Framer

/-- Exactly if cuts reveal no match, no text that matches stays pending after a push, whatever was
pushed, flushed and cleared before, and none ever waits for a timeout. If the pattern does not match
the empty text either, what is pending after a push never matches. Cuts reveal no match if the pattern
looks back for nothing that a terminator would hide. -/
theorem overlooks_nothing_iff (framer : Framer) {pattern : Pattern}
    (found : framer.pattern? = some pattern) :
    ((∀ requests fragment,
        ¬ pattern.Overlooked (framer.pendingAfterAll (requests ++ [.push fragment]))) ↔
      framer.CutsRevealNone pattern) ∧
    ((∀ events, ¬ pattern.Overlooked (TimedBuffer.after framer events).pending) ↔
      framer.CutsRevealNone pattern) ∧
    ((∀ requests fragment,
        ¬ pattern.OccursIn (framer.pendingAfterAll (requests ++ [.push fragment]))) ↔
      ¬ pattern.OccursIn [] ∧ framer.CutsRevealNone pattern) ∧
    ((∀ look ∈ pattern.looks, ∀ c ∈ framer.terminators, look.takesForStart c = true) →
      framer.CutsRevealNone pattern) := by
  have pushed (fragment : Text) : framer.pendingAfterAll [.push fragment] =
      (framer.push fragment []).2 := rfl
  have timed (fragment : Text) : (TimedBuffer.after framer [.append fragment]).pending =
      (framer.push fragment []).2 := TimedBuffer.pending_append framer fragment {}
  have unmatched (reveals : framer.CutsRevealNone pattern) (requests : List Request)
      (fragment : Text) :
      ¬ pattern.Overlooked (framer.pendingAfterAll (requests ++ [.push fragment])) := by
    rw [pendingAfterAll_concat]
    exact reveals.push found fragment _
  refine ⟨⟨?_, unmatched⟩, ⟨?_, ?_⟩, ⟨?_, ?_⟩, ?_⟩
  · exact fun overlooks => cutsRevealNone_of_push found fun fragment => overlooks [] fragment
  · exact fun overlooks => cutsRevealNone_of_push found fun fragment =>
      timed fragment ▸ overlooks [.append fragment]
  · exact fun reveals => TimedBuffer.not_overlooked_after reveals found
  · intro none
    refine ⟨fun occurs => none [] [] ?_, cutsRevealNone_of_push found fun fragment overlooked => ?_⟩
    · have emptied : (framer.push [] []).2 = [] := push_of_occursIn found occurs
      rwa [List.nil_append, pushed, emptied]
    · exact none [] fragment overlooked.2
  · rintro ⟨absent, reveals⟩ requests fragment occurs
    by_cases empty : framer.pendingAfterAll (requests ++ [.push fragment]) = []
    · exact absent (empty ▸ occurs)
    · exact unmatched reveals requests fragment ⟨empty, occurs⟩
  · intro takes front c tail isEnd _ overlooked
    have terminator : c ∈ framer.terminators := List.contains_iff_mem.mp isEnd
    exact overlooked.2.behind
      (fun look inPattern => Look.keptBehind_iff.mpr (takes look inPattern c terminator)) front

/-- Lines of either form are found at once, behind line feeds too. -/
theorem overlooks_nothing_iff_lines :
    let config : FramerConfig := { terminator := "\n", pattern? := some "(?m)^OK (\\d+)$|\\bERR\\b" }
    ∃ framer pattern, config.framer? = some framer ∧ framer.pattern? = some pattern ∧
      pattern.OccursIn "? ERR" ∧ pattern.OccursIn "OK 7" ∧
      ∀ requests fragment,
        ¬ pattern.OccursIn (framer.pendingAfterAll (requests ++ [.push fragment])) := by
  intro config
  let framer := config.framer?.get (by decide +kernel)
  let pattern := framer.pattern?.get (by decide +kernel)
  have found : framer.pattern? = some pattern := (Option.some_get _).symm
  obtain ⟨_, _, unmatched, spared⟩ := framer.overlooks_nothing_iff found
  -- A test of the lists, as there are too many characters to try them all.
  have takes : (pattern.looks.all fun look => framer.terminators.all look.takesForStart) = true := by
    decide +kernel
  simp only [List.all_eq_true] at takes
  have absent : ¬ pattern.OccursIn [] := by decide +kernel
  exact ⟨framer, pattern, (Option.some_get _).symm, found, by decide +kernel, by decide +kernel,
    unmatched.mpr ⟨absent, spared takes⟩⟩

/-- A text that must stand at the start is overlooked behind a line. -/
theorem exists_overlooked :
    let config : FramerConfig := { terminator := "\n", pattern? := some "^B" }
    ∃ framer pattern, config.framer? = some framer ∧ framer.pattern? = some pattern ∧
      framer.push "A\nB" [] = (["A\n".toList], "B".toList) ∧ pattern.Overlooked "B" := by
  intro config
  let framer := config.framer?.get (by decide +kernel)
  let pattern := framer.pattern?.get (by decide +kernel)
  have found : framer.pattern? = some pattern := (Option.some_get _).symm
  exact ⟨framer, pattern, (Option.some_get _).symm, found, by decide +kernel, by decide +kernel⟩

end Framer

end CommandLink
