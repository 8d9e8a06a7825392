import CommandLink.Proofs.Pattern.Search

/-!
# Matches behind other text

Text in front of a match can only change what the pattern sees when it looks back. A look that holds
at the start of a text and also behind a character holds there whatever stands in front of that
character, so that a pattern without other looks still matches behind it (`occursIn_behind`).
-/

namespace CommandLink

namespace Look

/-- A look that holds at the start of a text holds behind a character too, whatever follows. -/
def KeptBehind (look : Look) (c : Char) : Prop :=
  ∀ after, look.holds none after = true → look.holds (some c) after = true

/-- Whether a look takes a character for the start of a text. -/
def takesForStart (c : Char) : Look → Bool
  | .startText => false
  | .startLine | .startCrlfLine => c == '\n'
  | .endCrlfLine => c != '\r'
  | .wordBoundary isWord | .notWordBoundary isWord | .wordStart isWord | .wordStartHalf isWord =>
      !isWord c
  | .endText | .endLine | .wordEnd _ | .wordEndHalf _ => true

/-- A look is kept behind the characters that it takes for the start of a text, and only those. -/
theorem keptBehind_iff {look : Look} {c : Char} :
    look.KeptBehind c ↔ look.takesForStart c = true := by
  constructor
  · intro kept
    cases look with
    | startText | startLine => simpa [takesForStart, holds] using kept none
    | startCrlfLine => simpa [takesForStart, holds] using kept (some '\n')
    | endCrlfLine => simpa [takesForStart, holds] using kept (some '\n')
    | wordBoundary isWord | wordStart isWord =>
        have same := kept (some c)
        cases isWordC : isWord c <;> simp_all [takesForStart, holds]
    | notWordBoundary isWord | wordStartHalf isWord => simpa [takesForStart, holds] using kept none
    | endText | endLine | wordEnd | wordEndHalf => rfl
  · intro takes after holdsAtStart
    cases look <;> simp_all [takesForStart, holds]

instance (look : Look) (c : Char) : Decidable (look.KeptBehind c) :=
  decidable_of_iff _ keptBehind_iff.symm

end Look

namespace Pattern

/-- The conditions on places in a pattern. -/
def looks : Pattern → List Look
  | .empty | .set _ => []
  | .look condition => [condition]
  | .firstGroup body => body.looks
  | .sequence first second => first.looks ++ second.looks
  | .choice first second => first.looks ++ second.looks
  | .repetition body _ _ _ => body.looks

/-- Whether a pattern matches somewhere in a text. -/
def OccursIn (pattern : Pattern) (text : Text) : Prop :=
  (pattern.firstMatch? text).isSome = true

instance (pattern : Pattern) (text : Text) : Decidable (pattern.OccursIn text) :=
  inferInstanceAs (Decidable (_ = true))

end Pattern

namespace Program

variable {look : Look} {instructions : List Instruction}

theorem look_ne_fork (greedy : Bool) (first second : Int) :
    Instruction.look look ≠ fork greedy first second := by
  cases greedy <;> exact Instruction.noConfusion

theorem look_mem_of_mem_loop {greedy : Bool} (member : .look look ∈ loop greedy instructions) :
    .look look ∈ instructions := by
  rcases List.mem_append.mp member with inside | last
  · exact inside
  · exact absurd (List.mem_singleton.mp last) (look_ne_fork _ _ _)

theorem look_mem_of_mem_star {greedy nullable : Bool}
    (member : .look look ∈ star greedy nullable instructions) : .look look ∈ instructions := by
  cases nullable with
  | true =>
      rcases List.mem_cons.mp member with first | rest
      · exact absurd first (look_ne_fork _ _ _)
      · exact look_mem_of_mem_loop rest
  | false =>
      rcases List.mem_cons.mp member with first | rest
      · exact absurd first (look_ne_fork _ _ _)
      · simpa using rest

theorem look_mem_of_mem_upTo {greedy : Bool} {count : Nat}
    (member : .look look ∈ upTo greedy instructions count) : .look look ∈ instructions := by
  induction count with
  | zero => cases member
  | succ count inductionHypothesis =>
      rcases List.mem_cons.mp member with first | rest
      · exact absurd first (look_ne_fork _ _ _)
      · exact (List.mem_append.mp rest).elim id inductionHypothesis

theorem look_mem_of_mem_times {count : Nat} (member : .look look ∈ times instructions count) :
    .look look ∈ instructions := by
  obtain ⟨copy, among, inside⟩ := List.mem_flatten.mp member
  exact List.eq_of_mem_replicate among ▸ inside

theorem look_mem_of_mem_between {greedy nullable : Bool} {least : Nat} {most? : Option Nat}
    (member : .look look ∈ between greedy nullable instructions least most?) :
    .look look ∈ instructions := by
  cases most? with
  | some most =>
      exact (List.mem_append.mp member).elim look_mem_of_mem_times look_mem_of_mem_upTo
  | none =>
      cases least with
      | zero => exact look_mem_of_mem_star member
      | succ least =>
          exact (List.mem_append.mp member).elim look_mem_of_mem_times look_mem_of_mem_loop

/-- The looks in the code of a pattern are those of the pattern. -/
theorem look_mem_of_mem_code {pattern : Pattern} (member : .look look ∈ code pattern) :
    look ∈ pattern.looks := by
  induction pattern with
  | empty => cases member
  | set set => cases List.mem_singleton.mp member
  | look other =>
      obtain rfl := Instruction.look.inj (List.mem_singleton.mp member)
      exact List.mem_singleton_self _
  | firstGroup body inductionHypothesis =>
      exact inductionHypothesis (by simpa [code] using member)
  | sequence first second ofFirst ofSecond =>
      exact List.mem_append.mpr ((List.mem_append.mp member).imp ofFirst ofSecond)
  | choice first second ofFirst ofSecond =>
      have either : .look look ∈ code first ∨ .look look ∈ code second := by
        simpa [Program.code] using member
      exact List.mem_append.mpr (either.imp ofFirst ofSecond)
  | repetition body least most? greedy inductionHypothesis =>
      exact inductionHypothesis (look_mem_of_mem_between member)

theorem look_mem_of_mem_ofPattern {pattern : Pattern} (member : .look look ∈ ofPattern pattern) :
    look ∈ pattern.looks := by
  rw [ofPattern, List.mem_toArray, List.mem_append] at member
  exact member.elim look_mem_of_mem_code fun last => by cases List.mem_singleton.mp last

end Program

namespace Search.Machine

variable {program : Array Instruction} {front text : Text} {c : Char} {spot next : Spot}

theorem getElem?_behind (front text : Text) (c : Char) (place : Nat) :
    (front ++ c :: text)[place + (front.length + 1)]? = text[place]? := by
  rw [List.getElem?_append_right (by omega), Nat.add_comm front.length 1, ← Nat.add_assoc,
    Nat.add_sub_cancel, List.getElem?_cons_succ]

/-- What a look finds behind other text: the character in front if it is at the start, and otherwise
what it found before. -/
theorem holds_behind {look : Look} (kept : look.KeptBehind c) {place : Nat}
    (holds : look.holds (before? ⟨program, text.toArray⟩ place) text[place]? = true) :
    look.holds (before? ⟨program, (front ++ c :: text).toArray⟩ (place + (front.length + 1)))
      text[place]? = true := by
  cases place with
  | zero => simpa [before?] using kept _ holds
  | succ place =>
      have same := getElem?_behind front text c place
      rw [← Nat.add_assoc] at same
      simpa [before?, Nat.add_right_comm, same] using holds

/-- Behind other text the same instruction leads from the same characters to the same characters, if
its look is kept. -/
theorem nextSpots_behind {instruction : Instruction}
    (kept : ∀ look, instruction = .look look → look.KeptBehind c)
    (leads : next ∈ nextSpots ⟨program, text.toArray⟩ spot instruction) :
    (next.1, next.2 + (front.length + 1)) ∈
      nextSpots ⟨program, (front ++ c :: text).toArray⟩ (spot.1, spot.2 + (front.length + 1))
        instruction := by
  cases instruction with
  | take set =>
      simp only [nextSpots, step, List.getElem?_toArray, getElem?_behind] at leads ⊢
      cases taken : text[spot.2]? with
      | none => simp [taken] at leads
      | some d =>
          by_cases contained : set.contains d = true
          · simp only [taken, contained, if_true, List.map_singleton, List.mem_singleton] at leads ⊢
            rw [leads]
            exact Prod.ext rfl (Nat.add_right_comm spot.2 1 (front.length + 1))
          · simp [taken, contained] at leads
  | look look =>
      simp only [nextSpots, step, List.getElem?_toArray, getElem?_behind] at leads ⊢
      by_cases holds : look.holds (before? ⟨program, text.toArray⟩ spot.2) text[spot.2]? = true
      · rw [if_pos holds, List.map_singleton, List.mem_singleton] at leads
        rw [if_pos (holds_behind (kept look rfl) holds), List.map_singleton, List.mem_singleton, leads]
        rfl
      · rw [if_neg holds] at leads
        cases leads
  | fork first second =>
      simp only [nextSpots, step, List.map_cons, List.map_nil, List.mem_cons, List.not_mem_nil,
        or_false] at leads ⊢
      exact leads.imp (fun same => by rw [same]; rfl) (fun same => by rw [same]; rfl)
  | jump | openGroup | closeGroup =>
      simp only [nextSpots, step, List.map_singleton, List.mem_singleton] at leads ⊢
      rw [leads]
      rfl
  | accept => cases leads

/-- Behind other text the same spots lead to acceptance, if all looks are kept. -/
theorem Accepts.behind (kept : ∀ look, .look look ∈ program → look.KeptBehind c)
    (accepts : Accepts ⟨program, text.toArray⟩ spot) (front : Text) :
    Accepts ⟨program, (front ++ c :: text).toArray⟩ (spot.1, spot.2 + (front.length + 1)) := by
  induction accepts with
  | here found => exact .here found
  | onward found leads _ inductionHypothesis =>
      refine .onward found (nextSpots_behind ?_ leads) inductionHypothesis
      rintro look rfl
      exact kept look (Array.mem_of_getElem? found)

end Search.Machine

namespace Pattern

/-- A pattern matches in a text exactly if some place of the text leads to acceptance. -/
theorem occursIn_iff {pattern : Pattern} {text : Text} :
    pattern.OccursIn text ↔ ∃ place ≤ text.length,
      Search.Machine.Accepts ⟨Program.ofPattern pattern, text.toArray⟩ (0, place) := by
  rw [OccursIn, firstMatch?, Option.isSome_map,
    Search.Machine.isSome_find?_iff _ (Nat.zero_le _)]
  simp

/-- A pattern that matches in a text still does when more stands in front of the text, if its looks
are kept behind the last character in front. -/
theorem OccursIn.behind {pattern : Pattern} {text : Text} {c : Char}
    (kept : ∀ look ∈ pattern.looks, look.KeptBehind c) (occurs : pattern.OccursIn text)
    (front : Text) : pattern.OccursIn (front ++ c :: text) := by
  obtain ⟨place, inText, accepts⟩ := occursIn_iff.mp occurs
  refine occursIn_iff.mpr ⟨place + (front.length + 1), ?_, ?_⟩
  · rw [List.length_append, List.length_cons]
    omega
  · exact accepts.behind (fun look inProgram => kept look (Program.look_mem_of_mem_ofPattern inProgram))
      front

end Pattern

end CommandLink
