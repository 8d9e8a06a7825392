import CommandLink.Proofs.Text.Decoding

/-!
# Octets in chunks

Octets that arrive in chunks are decoded chunk by chunk. What a chunk ends within is carried over and
stands in front of the next one. `Takes` says what has to come of that: the octets at hand are checked
from the front, the characters before a flaw are written and a replacement character for it, and the
check starts over behind the flaw, until the octets end in a character or within one. The decoder,
which looks at each octet once, comes to just that (`takes_append_iff`), and the chunks together are
decoded as if they had come as one (`takeAll_chunks`).
-/

namespace CommandLink.Utf8

/-- The octets begin a character and are not all of it. -/
def IsProperBeginning (octets : List UInt8) : Prop :=
  ∃ c, octets <+: String.utf8EncodeChar c ∧ octets ≠ String.utf8EncodeChar c

/-- At the front of octets, `part` is part of no character, whatever else arrives. It is the longest
beginning of a character, which the octet behind it does not continue, or a single octet that begins
none. -/
structure IsFlaw (part rest : List UInt8) : Prop where
  filled : part ≠ []
  begins : Begins part ∨ part.length = 1
  incomplete : ∀ c, part ≠ String.utf8EncodeChar c
  longest : ∀ octet later, rest = octet :: later → ¬ Begins (part ++ [octet])
  /-- Where the octets end within a character, it may still be completed. -/
  final : Begins part → rest ≠ []

/-- A pass over octets that finds a flaw. The characters before it and a replacement character are
written, and the octets behind it are left. -/
inductive Pass : List UInt8 → Text → List UInt8 → Prop where
  | intro (text : Text) {part left : List UInt8} (flaw : IsFlaw part left) :
      Pass (encode text ++ (part ++ left)) (text ++ [replacement]) left

/-- Passes over octets up to the first that finds no flaw. What is carried over has begun a
character. -/
inductive Takes : List UInt8 → Text → List UInt8 → Prop where
  | last (text : Text) {carry : List UInt8} (proper : IsProperBeginning carry) :
      Takes (encode text ++ carry) text carry
  | pass {octets left carry : List UInt8} {written later : Text} (pass : Pass octets written left)
      (further : Takes left later carry) : Takes octets (written ++ later) carry

variable {carry part octets left unfinished : List UInt8} {text written : Text} {c : Char}

theorem isProperBeginning_iff : IsProperBeginning carry ↔ carry = [] ∨ Unfinished carry := by
  constructor
  · rintro ⟨c, begins, incomplete⟩
    rcases read_of_begins carry ⟨c, begins⟩ with ⟨beginning, _⟩ | ⟨d, rfl, _⟩
    · exact beginning
    · -- No character begins another one: the table does not go on behind it.
      obtain ⟨rest, whole⟩ := begins
      cases rest with
      | nil => exact absurd (by simpa using whole) incomplete
      | cons octet rest =>
          have longer : Begins (String.utf8EncodeChar d ++ [octet]) := ⟨c, rest, by simpa using whole⟩
          obtain ⟨_, _, range, _⟩ := continues_of_begins String.utf8EncodeChar_ne_nil longer
          rw [continuation_encodeChar] at range
          contradiction
  · rintro (rfl | unfinished)
    · exact ⟨'a', List.nil_prefix, String.utf8EncodeChar_ne_nil.symm⟩
    · obtain ⟨c, begins⟩ := unfinished.begins
      exact ⟨c, begins, unfinished.incomplete c⟩

theorem IsProperBeginning.length_le (proper : IsProperBeginning carry) : carry.length ≤ 3 := by
  obtain ⟨c, begins, incomplete⟩ := proper
  have shorter : carry.length < (String.utf8EncodeChar c).length :=
    Nat.lt_of_le_of_ne begins.length_le fun same => incomplete (begins.eq_of_length same)
  have most : (String.utf8EncodeChar c).length ≤ 4 := by
    rw [String.length_utf8EncodeChar]
    exact c.utf8Size_le_four
  omega

theorem IsProperBeginning.read_eq (proper : IsProperBeginning carry) : read [] carry = ([], carry) := by
  rcases isProperBeginning_iff.mp proper with rfl | unfinished
  · rfl
  · rcases read_of_begins carry unfinished.begins with ⟨_, reads⟩ | ⟨c, whole, _⟩
    · exact reads
    · exact absurd whole (unfinished.incomplete c)

/-- Such a beginning may be read before the octets that follow it or together with them. -/
theorem IsProperBeginning.take_append (proper : IsProperBeginning carry) (octets : List UInt8) :
    take [] (carry ++ octets) = take carry octets := by
  simp [take, read_append, proper.read_eq]

theorem take_encode_append (text : Text) (octets : List UInt8) :
    take [] (encode text ++ octets) = (text ++ (take [] octets).1, (take [] octets).2) := by
  simp [take, read_append, read_encode, characters, Function.comp_def]

/-- A flaw is given up and replaced, and what is behind it is read afresh. -/
theorem IsFlaw.take_append (flaw : IsFlaw part left) :
    take [] (part ++ left) = (replacement :: (take [] left).1, (take [] left).2) := by
  by_cases begun : Begins part
  · rcases read_of_begins part begun with ⟨empty | unfinished, reads⟩ | ⟨c, whole, _⟩
    · exact absurd empty flaw.filled
    · obtain ⟨octet, later, rfl⟩ := List.exists_cons_of_ne_nil (flaw.final begun)
      have other : ¬ Continues part octet := fun continues =>
        flaw.longest octet later rfl (begins_of_continues begun continues)
      simp [take, read_append, reads, read, step_of_not_continues unfinished other, characters]
    · exact absurd whole (flaw.incomplete c)
  · obtain ⟨octet, rfl⟩ := List.length_eq_one_iff.mp (flaw.begins.resolve_left begun)
    rw [begins_single_iff, not_or] at begun
    simp [take, read, start, begun.1, begun.2, characters]

theorem Takes.take_eq (takes : Takes octets text carry) : take [] octets = (text, carry) := by
  induction takes with
  | last text proper =>
      rw [take_encode_append]
      simp [take, proper.read_eq, characters]
  | pass pass further inductionHypothesis =>
      obtain ⟨text, flaw⟩ := pass
      rw [take_encode_append, flaw.take_append, inductionHypothesis]
      simp

theorem Takes.proper (takes : Takes octets text carry) : IsProperBeginning carry := by
  induction takes with
  | last _ proper => exact proper
  | pass _ _ inductionHypothesis => exact inductionHypothesis

/-- A character in front of octets is written before what is taken of them. -/
theorem Takes.character (c : Char) (takes : Takes octets text carry) :
    Takes (String.utf8EncodeChar c ++ octets) (c :: text) carry := by
  have encoded (text : Text) (rest : List UInt8) : String.utf8EncodeChar c ++ (encode text ++ rest) =
      encode (c :: text) ++ rest := by
    rw [encode, encode, List.flatMap_cons, List.append_assoc]
  cases takes with
  | last text proper =>
      rw [encoded]
      exact .last (c :: text) proper
  | pass pass further =>
      obtain ⟨text, flaw⟩ := pass
      rw [encoded]
      exact .pass (.intro (c :: text) flaw) further

/-- All octets can be taken. The passes follow what the octets stand for. -/
theorem exists_takes (octets : List UInt8) : ∃ text carry, Takes octets text carry := by
  obtain ⟨text, decodes⟩ : ∃ text, Decodes octets text := ⟨_, decodes_iff.mpr rfl⟩
  induction decodes with
  | nil => exact ⟨[], [], .last [] (isProperBeginning_iff.mpr (.inl rfl))⟩
  | character c _ inductionHypothesis =>
      obtain ⟨text, carry, takes⟩ := inductionHypothesis
      exact ⟨c :: text, carry, takes.character c⟩
  | @illFormed part octets _ filled begins incomplete longest _ inductionHypothesis =>
      by_cases ended : Begins part ∧ octets = []
      · obtain ⟨⟨c, begun⟩, rfl⟩ := ended
        rw [List.append_nil]
        exact ⟨[], part, .last [] ⟨c, begun, incomplete c⟩⟩
      · obtain ⟨text, carry, takes⟩ := inductionHypothesis
        have flaw : IsFlaw part octets :=
          ⟨filled, begins, incomplete, longest, fun begun empty => ended ⟨begun, empty⟩⟩
        exact ⟨_, carry, .pass (.intro [] flaw) takes⟩

/-- The decoder comes to what the passes over the carry and the octets behind it come to. -/
theorem takes_append_iff (proper : IsProperBeginning carry) :
    Takes (carry ++ octets) text unfinished ↔ take carry octets = (text, unfinished) := by
  rw [← proper.take_append]
  constructor
  · exact Takes.take_eq
  · intro taken
    obtain ⟨other, final, takes⟩ := exists_takes (carry ++ octets)
    rw [takes.take_eq, Prod.mk.injEq] at taken
    obtain ⟨rfl, rfl⟩ := taken
    exact takes

theorem Pass.length_lt (pass : Pass octets written left) : left.length < octets.length := by
  obtain ⟨text, flaw⟩ := pass
  have positive := List.length_pos_iff.mpr flaw.filled
  simp only [List.length_append]
  omega

/-- Passes come to an end, since each leaves fewer octets. -/
theorem wellFounded_pass : WellFounded fun left octets => ∃ written, Pass octets written left :=
  Subrelation.wf (fun ⟨_, pass⟩ => pass.length_lt) (measure List.length).wf

/-- Decode chunks in order, each after what the one before it has left unfinished: the texts, and what
the last one leaves. -/
def takeAll (carry : List UInt8) : List (List UInt8) → List Text × List UInt8
  | [] => ([], carry)
  | chunk :: chunks =>
      let (text, unfinished) := take carry chunk
      let (later, final) := takeAll unfinished chunks
      (text :: later, final)

/-- Chunks are put behind the carry one after the other, and each time passes are made until no flaw
is found. -/
inductive TakesAll : List UInt8 → List (List UInt8) → List Text → List UInt8 → Prop where
  | nil (carry : List UInt8) : TakesAll carry [] [] carry
  | cons {carry chunk unfinished final : List UInt8} {chunks : List (List UInt8)} {text : Text}
      {later : List Text} (first : Takes (carry ++ chunk) text unfinished)
      (rest : TakesAll unfinished chunks later final) :
      TakesAll carry (chunk :: chunks) (text :: later) final

theorem takesAll_iff {chunks : List (List UInt8)} {texts : List Text} {final : List UInt8}
    (proper : IsProperBeginning carry) :
    TakesAll carry chunks texts final ↔ takeAll carry chunks = (texts, final) := by
  induction chunks generalizing carry texts with
  | nil =>
      constructor
      · rintro ⟨⟩
        rfl
      · rintro ⟨⟩
        exact .nil _
  | cons chunk chunks inductionHypothesis =>
      constructor
      · rintro (_ | ⟨first, rest⟩)
        rw [inductionHypothesis first.proper] at rest
        simp only [takeAll, (takes_append_iff proper).mp first, rest]
      · rintro ⟨⟩
        have first := (takes_append_iff proper).mpr (rfl : take carry chunk = _)
        exact .cons first ((inductionHypothesis first.proper).mpr rfl)

/-- What is carried over from chunk to chunk has begun a character. -/
theorem isProperBeginning_takeAll (chunks : List (List UInt8)) (proper : IsProperBeginning carry) :
    IsProperBeginning (takeAll carry chunks).2 := by
  induction chunks generalizing carry with
  | nil => exact proper
  | cons chunk chunks inductionHypothesis =>
      have first := (takes_append_iff proper).mpr (rfl : take carry chunk = _)
      exact inductionHypothesis first.proper

/-- The texts of the chunks, and one more replacement for what the last one leaves, are the text of
all octets. -/
theorem flatten_takeAll (chunks : List (List UInt8)) (carry : List UInt8) :
    (takeAll carry chunks).1.flatten ++ abandon (takeAll carry chunks).2 =
      finish carry chunks.flatten := by
  induction chunks generalizing carry with
  | nil => simp [takeAll]
  | cons chunk chunks inductionHypothesis =>
      rw [List.flatten_cons, finish_append, ← inductionHypothesis]
      simp [takeAll]

/-- However octets are cut into chunks: passes over each chunk, with what was carried over in front of
it, come to an end, and to what the decoder gives. The texts, and what the last carry stands for, are
what all the octets stand for. What is carried over is at most three octets, the beginning of a
character and not all of it. -/
theorem takeAll_chunks (chunks : List (List UInt8)) :
    ∃ texts carry, takeAll [] chunks = (texts, carry) ∧
      (∀ otherTexts otherCarry, TakesAll [] chunks otherTexts otherCarry ↔
        otherTexts = texts ∧ otherCarry = carry) ∧
      (WellFounded fun left octets => ∃ written, Pass octets written left) ∧
      texts.flatten ++ decodeLossy carry = decodeLossy chunks.flatten ∧
      Decodes chunks.flatten (texts.flatten ++ decodeLossy carry) ∧
      carry.length ≤ 3 ∧ IsProperBeginning carry := by
  have fresh : IsProperBeginning [] := isProperBeginning_iff.mpr (.inl rfl)
  have proper := isProperBeginning_takeAll chunks fresh
  have whole : (takeAll [] chunks).1.flatten ++ decodeLossy (takeAll [] chunks).2 =
      decodeLossy chunks.flatten := by
    have rest : decodeLossy (takeAll [] chunks).2 = abandon (takeAll [] chunks).2 := by
      simp [decodeLossy, take, proper.read_eq, characters]
    rw [rest, flatten_takeAll, decodeLossy_eq_finish]
  refine ⟨_, _, rfl, fun otherTexts otherCarry => ?_, wellFounded_pass, whole,
    decodes_iff.mpr whole, proper.length_le, proper⟩
  rw [takesAll_iff fresh, Prod.ext_iff]
  exact and_congr eq_comm eq_comm

/-- A character that is cut in two, an octet that begins none, and a character that is given up after
two of its octets came in different chunks. -/
example : takeAll [] [[0x5A, 0xC3], [0xBC, 0xFF, 0xE2], [0x82], [0x41, 0xF0, 0x9F]] =
    (["Z".toList, ['ü', replacement], [], [replacement, 'A']], [0xF0, 0x9F]) := by
  decide

end CommandLink.Utf8
