import CommandLink.Proofs.Framing.Conservation

/-!
# Texts that arrive in different fragments

A message is emitted as soon as its first terminator arrives, with the terminators that come along
in the same fragment; those that follow in later fragments are dropped. So two ways of cutting a text
complete the same messages, but the messages need not end with the same terminators. They do exactly
if the first terminator of each brings the same others with it (`pushAll_eq_iff`).
-/

namespace CommandLink

namespace Chunk

variable {framer : Framer}

/-- A text that begins with a terminator begins with a chunk of all terminators up to the first
character that is none. What follows that chunk has the messages of what follows the terminator. -/
theorem exists_ofText_cons {c : Char} (isEnd : framer.ends c = true) (text : Text) :
    ∃ later, ofText framer.ends (c :: text) = ⟨[], (c :: text).takeWhile framer.ends⟩ :: later ∧
      messages later = messages (ofText framer.ends text) := by
  induction text generalizing c with
  | nil => exact ⟨[], by simp [ofText, cons, isEnd], rfl⟩
  | cons d text inductionHypothesis =>
      cases isEndNext : framer.ends d with
      | true =>
          obtain ⟨later, whole, same⟩ := inductionHypothesis isEndNext
          refine ⟨later, ?_, ?_⟩
          · rw [ofText, whole]
            simp [cons, isEnd]
          · rw [whole]
            simp [messages, isMessage]
      | false =>
          refine ⟨ofText framer.ends (d :: text), ?_, rfl⟩
          rw [ofText, ofText]
          cases ofText framer.ends text <;> simp [cons, isEnd, isEndNext]

/-- Text without terminators in front of a terminator is a message with all terminators that
follow, unless there is none. -/
theorem messages_ofText_append_cons {body : Text} (inside : ∀ c ∈ body, framer.ends c = false)
    {c : Char} (isEnd : framer.ends c = true) (text : Text) :
    messages (ofText framer.ends (body ++ c :: text)) =
      ([body ++ (c :: text).takeWhile framer.ends].filter fun _ => !body.isEmpty) ++
        messages (ofText framer.ends text) := by
  obtain ⟨later, whole, same⟩ := exists_ofText_cons isEnd text
  have grown : ofText framer.ends (body ++ c :: text) =
      ⟨body, (c :: text).takeWhile framer.ends⟩ :: later := by
    induction body with
    | nil => exact whole
    | cons d body inductionHypothesis =>
        rw [List.forall_mem_cons] at inside
        rw [List.cons_append, ofText, inductionHypothesis inside.2]
        simp [cons, inside.1]
  rw [grown, ← same]
  cases body <;> simp [messages, isMessage, Chunk.text, isEnd]

end Chunk

namespace Framer

variable {framer : Framer} {pending : Text}

/-- The places of a text at which messages are complete, if some text is pending in front of it. -/
def stops (framer : Framer) (pending : Text) : Text → List Nat
  | [] => []
  | c :: text =>
      if framer.ends c then
        ([0].filter fun _ => !pending.isEmpty) ++ (framer.stops [] text).map (· + 1)
      else (framer.stops (pending ++ [c]) text).map (· + 1)

/-- Between two texts a message is complete: a terminator follows a character that is none. -/
def Completed (framer : Framer) (left right : Text) : Prop :=
  (∃ c ∈ left.getLast?, framer.ends c = false) ∧ ∃ c ∈ right.head?, framer.ends c = true

/-- What arrives from some place of the text on in the fragment that holds the place. -/
def arriving : List Text → Nat → Text
  | [], _ => []
  | fragment :: rest, place =>
      if place < fragment.length then fragment.drop place
      else arriving rest (place - fragment.length)

/-- The terminators that arrive together with the one at a place. -/
def ending (framer : Framer) (fragments : List Text) (place : Nat) : Text :=
  (arriving fragments place).takeWhile framer.ends

theorem forall_ends_append_singleton {c : Char} (inside : ∀ d ∈ pending, framer.ends d = false)
    (insideNext : framer.ends c = false) : ∀ d ∈ pending ++ [c], framer.ends d = false := by
  simpa [or_imp, forall_and, insideNext] using inside

/-- Every finished piece has its stop. -/
theorem length_stops (inside : ∀ c ∈ pending, framer.ends c = false) (text : Text) :
    (framer.finished (pending ++ text)).length = (framer.stops pending text).length := by
  induction text generalizing pending with
  | nil => simp [stops, framer.finished_eq_nil inside]
  | cons c text inductionHypothesis =>
      cases isEnd : framer.ends c with
      | true =>
          rw [framer.finished_append_cons inside isEnd, stops, if_pos isEnd, List.length_append,
            List.length_append, List.length_map, ← inductionHypothesis (List.forall_mem_nil _)]
          cases pending <;> rfl
      | false =>
          have insideMore := forall_ends_append_singleton inside isEnd
          rw [stops, if_neg (by simp [isEnd]), List.length_map, ← inductionHypothesis insideMore,
            List.append_assoc, List.singleton_append]

/-- What stands in front of a terminator has no part in what is complete behind it. -/
theorem completed_append_cons_iff {c : Char} (isEnd : framer.ends c = true) (front left right : Text) :
    framer.Completed (front ++ c :: left) right ↔ framer.Completed left right := by
  cases left with
  | nil => simp [Completed, isEnd]
  | cons d left =>
      have last : (front ++ c :: d :: left).getLast? = (d :: left).getLast? := by
        rw [List.getLast?_append_of_ne_nil _ (List.cons_ne_nil c _), List.getLast?_cons_cons]
      rw [Completed, Completed, last]

/-- A terminator completes what is pending. -/
theorem completed_cons_iff (inside : ∀ d ∈ pending, framer.ends d = false) {c : Char} {text : Text} :
    framer.Completed pending (c :: text) ↔ pending ≠ [] ∧ framer.ends c = true := by
  have last : (∃ d ∈ pending.getLast?, framer.ends d = false) ↔ pending ≠ [] := by
    constructor
    · rintro ⟨d, member, _⟩ rfl
      cases member
    · intro filled
      have member := List.getLast?_eq_some_getLast filled
      exact ⟨_, member, inside _ (List.mem_of_getLast? member)⟩
  rw [Completed, last]
  simp

/-- At a stop a message is complete, and at no other place. -/
theorem mem_stops_iff (inside : ∀ c ∈ pending, framer.ends c = false) {text : Text} {place : Nat} :
    place ∈ framer.stops pending text ↔
      ∃ left right, text = left ++ right ∧ left.length = place ∧
        framer.Completed (pending ++ left) right := by
  induction text generalizing pending place with
  | nil => simp [stops, Completed]
  | cons c text inductionHypothesis =>
      have split : (∃ left right, c :: text = left ++ right ∧ left.length = place ∧
          framer.Completed (pending ++ left) right) ↔
          place = 0 ∧ framer.Completed pending (c :: text) ∨
            ∃ left right, text = left ++ right ∧ left.length + 1 = place ∧
              framer.Completed (pending ++ c :: left) right := by
        constructor
        · rintro ⟨left, right, whole, rfl, completed⟩
          rcases List.cons_eq_append_iff.mp whole with ⟨rfl, rfl⟩ | ⟨rest, rfl, rfl⟩
          · exact .inl ⟨rfl, by simpa using completed⟩
          · exact .inr ⟨rest, right, rfl, rfl, completed⟩
        · rintro (⟨rfl, completed⟩ | ⟨left, right, rfl, rfl, completed⟩)
          · exact ⟨[], c :: text, rfl, rfl, by simpa using completed⟩
          · exact ⟨c :: left, right, rfl, rfl, completed⟩
      have later : ∀ {pending : Text}, (∀ c ∈ pending, framer.ends c = false) →
          (place ∈ (framer.stops pending text).map (· + 1) ↔
            ∃ left right, text = left ++ right ∧ left.length + 1 = place ∧
              framer.Completed (pending ++ left) right) := by
        intro pending inside
        rw [List.mem_map]
        constructor
        · rintro ⟨_, member, rfl⟩
          obtain ⟨left, right, whole, rfl, completed⟩ := (inductionHypothesis inside).mp member
          exact ⟨left, right, whole, rfl, completed⟩
        · rintro ⟨left, right, whole, rfl, completed⟩
          exact ⟨_, (inductionHypothesis inside).mpr ⟨left, right, whole, rfl, completed⟩, rfl⟩
      rw [split, completed_cons_iff inside]
      cases isEnd : framer.ends c with
      | true =>
          rw [stops, if_pos isEnd, List.mem_append, later (List.forall_mem_nil _)]
          simp only [completed_append_cons_iff isEnd, List.nil_append]
          refine or_congr_left ?_
          cases pending <;> simp
      | false =>
          rw [stops, if_neg (by simp [isEnd]), later (forall_ends_append_singleton inside isEnd)]
          simp

theorem stops_append (inside : ∀ c ∈ pending, framer.ends c = false) (left right : Text) :
    framer.stops pending (left ++ right) =
      framer.stops pending left ++
        (framer.stops (framer.tail (pending ++ left)) right).map (· + left.length) := by
  induction left generalizing pending with
  | nil => simp [stops, framer.tail_eq_self inside]
  | cons c left inductionHypothesis =>
      cases isEnd : framer.ends c with
      | true =>
          rw [framer.tail_append_cons inside isEnd, List.cons_append, stops, stops, if_pos isEnd,
            if_pos isEnd, inductionHypothesis (List.forall_mem_nil _)]
          simp [Function.comp_def, Nat.add_assoc]
      | false =>
          have insideMore := forall_ends_append_singleton inside isEnd
          rw [List.cons_append, stops, stops, if_neg (by simp [isEnd]), if_neg (by simp [isEnd]),
            inductionHypothesis insideMore]
          simp [Function.comp_def, Nat.add_assoc]

/-- What a push emits: each finished piece, with the terminators that the fragment has from its stop
on. -/
theorem push_fst_eq (plain : framer.pattern? = none)
    (inside : ∀ c ∈ pending, framer.ends c = false) (fragment : Text) :
    (framer.push fragment pending).1 =
      List.zipWith (· ++ ·) (framer.finished (pending ++ fragment))
        ((framer.stops pending fragment).map fun place =>
          (fragment.drop place).takeWhile framer.ends) := by
  have emitted : ∀ pending, (framer.push fragment pending).1 =
      Chunk.messages (Chunk.ofText framer.ends (pending ++ fragment)) := fun pending => by
    simp only [push, plain, Option.bind_none]
    rfl
  rw [emitted]
  clear emitted
  induction fragment generalizing pending with
  | nil =>
      have unended := (Chunk.divides_ofText framer pending).messages
      rw [framer.pieces_eq_singleton inside] at unended
      rw [List.append_nil, framer.finished_eq_nil inside]
      simpa using unended
  | cons c fragment inductionHypothesis =>
      cases isEnd : framer.ends c with
      | true =>
          have later := inductionHypothesis (List.forall_mem_nil _)
          rw [List.nil_append] at later
          rw [Chunk.messages_ofText_append_cons inside isEnd, later,
            framer.finished_append_cons inside isEnd, stops, if_pos isEnd]
          cases pending <;> simp [Function.comp_def]
      | false =>
          have insideMore := forall_ends_append_singleton inside isEnd
          have later := inductionHypothesis insideMore
          rw [List.append_assoc, List.singleton_append] at later
          rw [later, stops, if_neg (by simp [isEnd])]
          simp [Function.comp_def]

theorem ending_cons_of_lt {fragment : Text} {place : Nat} (inFragment : place < fragment.length)
    (rest : List Text) :
    framer.ending (fragment :: rest) place = (fragment.drop place).takeWhile framer.ends := by
  rw [ending, arriving, if_pos inFragment]

theorem ending_cons_add (fragment : Text) (rest : List Text) (place : Nat) :
    framer.ending (fragment :: rest) (place + fragment.length) = framer.ending rest place := by
  rw [ending, arriving, if_neg (by omega), Nat.add_sub_cancel, ← ending]

/-- What pushes emit: each finished piece, with the terminators that arrive together with the one
at its stop. -/
theorem pushAll_fst_eq (plain : framer.pattern? = none)
    (inside : ∀ c ∈ pending, framer.ends c = false) (fragments : List Text) :
    (framer.pushAll fragments pending).1 =
      List.zipWith (· ++ ·) (framer.finished (pending ++ fragments.flatten))
        ((framer.stops pending fragments.flatten).map (framer.ending fragments)) := by
  induction fragments generalizing pending with
  | nil => simp [pushAll, framer.finished_eq_nil inside]
  | cons fragment rest inductionHypothesis =>
      have kept := push_pending plain fragment pending
      have insideTail : ∀ c ∈ framer.tail (pending ++ fragment), framer.ends c = false :=
        framer.not_ends_of_mem_tail
      have later := inductionHypothesis insideTail
      have now : (framer.stops pending fragment).map (framer.ending (fragment :: rest)) =
          (framer.stops pending fragment).map fun place =>
            (fragment.drop place).takeWhile framer.ends := by
        refine List.map_congr_left fun place member => ending_cons_of_lt ?_ rest
        obtain ⟨left, right, rfl, rfl, _, c, head, _⟩ := (mem_stops_iff inside).mp member
        have filled := List.length_pos_of_mem (List.mem_of_mem_head? head)
        rw [List.length_append]
        omega
      have next : ∀ stops : List Nat, (stops.map (· + fragment.length)).map
          (framer.ending (fragment :: rest)) = stops.map (framer.ending rest) := by
        intro stops
        simp [Function.comp_def, ending_cons_add]
      rw [List.flatten_cons, ← List.append_assoc, framer.finished_append, stops_append inside,
        List.map_append, now, next, List.zipWith_append, ← push_fst_eq plain inside, ← later, ← kept]
      · rfl
      · rw [length_stops inside, List.length_map]

/-- Texts with endings are the same exactly if the endings are. -/
theorem zipWith_map_eq_iff {texts : List Text} {places : List Nat}
    (length : texts.length = places.length) (left right : Nat → Text) :
    List.zipWith (· ++ ·) texts (places.map left) = List.zipWith (· ++ ·) texts (places.map right) ↔
      ∀ place ∈ places, left place = right place := by
  induction texts generalizing places with
  | nil => simp [List.length_eq_zero_iff.mp length.symm]
  | cons text texts inductionHypothesis =>
      obtain ⟨place, places, rfl⟩ := List.exists_cons_of_length_eq_add_one length.symm
      have lengthRest : texts.length = places.length := by simpa using length
      simp [inductionHypothesis lengthRest]

theorem pushAll_nil_snd (plain : framer.pattern? = none) (fragments : List Text) :
    (framer.pushAll fragments []).2 = framer.tail fragments.flatten := by
  have pending := (pushAll_tail plain fragments []).1
  rwa [framer.tail_eq_self (List.forall_mem_nil _), List.nil_append] at pending

theorem map_content_pushAll_nil (plain : framer.pattern? = none) (fragments : List Text) :
    (framer.pushAll fragments []).1.map framer.content = framer.finished fragments.flatten := by
  obtain ⟨_, later, finished, completed⟩ := pushAll_tail plain fragments []
  rw [framer.finished_eq_nil (List.forall_mem_nil _), List.nil_append, List.nil_append] at finished
  rw [framer.tail_eq_self (List.forall_mem_nil _), ← finished] at completed
  exact map_content_of_completes completed fun _ => framer.mem_finished

/-- However a text is cut, the same is pending in the end, and up to their terminators the messages
are the same. They are the same exactly if the first terminator of each brings the same others with
it in its fragment. -/
theorem pushAll_eq_iff (framer : Framer) (plain : framer.pattern? = none)
    {fragments others : List Text} (same : fragments.flatten = others.flatten) :
    (framer.pushAll fragments []).2 = (framer.pushAll others []).2 ∧
      (framer.pushAll fragments []).1.map framer.content =
        (framer.pushAll others []).1.map framer.content ∧
      ((framer.pushAll fragments []).1 = (framer.pushAll others []).1 ↔
        ∀ left right, fragments.flatten = left ++ right → framer.Completed left right →
          framer.ending fragments left.length = framer.ending others left.length) := by
  refine ⟨?_, ?_, ?_⟩
  · rw [pushAll_nil_snd plain, pushAll_nil_snd plain, same]
  · rw [map_content_pushAll_nil plain, map_content_pushAll_nil plain, same]
  · have inside : ∀ c ∈ ([] : Text), framer.ends c = false := List.forall_mem_nil _
    have length := length_stops inside fragments.flatten
    rw [pushAll_fst_eq plain inside, pushAll_fst_eq plain inside, ← same, zipWith_map_eq_iff length]
    constructor
    · intro equal left right whole completed
      exact equal _ ((mem_stops_iff inside).mpr ⟨left, right, whole, rfl, completed⟩)
    · intro equal place member
      obtain ⟨left, right, whole, rfl, completed⟩ := (mem_stops_iff inside).mp member
      exact equal left right whole completed

/-- A line ending that arrives in two parts in both cases, once with text in front of the first part
and once with text behind the second. -/
theorem pushAll_eq_iff_serial :
    let framer : Framer := ⟨"\r\n", none, 2000, 100⟩
    let fragments : List Text := ["Sn", "ap\r", "\nSta", "te\r\n"]
    let others : List Text := ["Snap\r", "\n", "State\r\n"]
    fragments.flatten = others.flatten ∧
      (framer.pushAll fragments []).1 = (framer.pushAll others []).1 ∧
      framer.ending fragments 4 = framer.ending others 4 ∧ framer.ending others 4 = "\r" := by
  intro framer fragments others
  have same : fragments.flatten = others.flatten := by decide
  have equal : (framer.pushAll fragments []).1 = (framer.pushAll others []).1 := by decide
  have endings := (framer.pushAll_eq_iff rfl same).2.2.mp equal
  have completed : framer.Completed "Snap" "\r\nState\r\n" :=
    ⟨⟨'p', by decide, by decide⟩, '\r', by decide, by decide⟩
  exact ⟨same, equal, endings "Snap" "\r\nState\r\n" (by decide) completed, by decide⟩

/-- A line ending that arrives in two parts ends its message with the first of them only. -/
theorem exists_pushAll_ne :
    let framer : Framer := ⟨"\r\n", none, 2000, 100⟩
    let whole : List Text := ["Snap\r\n"]
    let parts : List Text := ["Snap\r", "\n"]
    whole.flatten = parts.flatten ∧ framer.pushAll whole [] = (whole, []) ∧
      framer.pushAll parts [] = (parts.take 1, []) := by
  decide

end Framer

end CommandLink
