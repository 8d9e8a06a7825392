import CommandLink.Proofs.Text.Characters
import Mathlib.Data.List.Induction

/-!
# Decoding

A decoder that is given octets in parts reads the same as one that is given all at once: the carry
is all that it has to know of the octets before. What it reads is what the octets stand for
(`decodes_iff`), which `Decodes` says without a decoder.
-/

namespace CommandLink.Utf8

variable {carry part octets : List UInt8} {octet : UInt8} {text : Text}

theorem read_append (carry left right : List UInt8) :
    read carry (left ++ right) =
      ((read carry left).1 ++ (read (read carry left).2 right).1,
        (read (read carry left).2 right).2) := by
  induction left generalizing carry with
  | nil => simp [read]
  | cons octet left inductionHypothesis => simp [read, inductionHypothesis]

theorem read_single (carry : List UInt8) (octet : UInt8) :
    read carry [octet] = step carry octet := by
  simp [read]

@[simp] theorem step_nil (octet : UInt8) : step [] octet = start octet :=
  rfl

/-- The text of octets that follow `carry` and that nothing follows. -/
def finish (carry octets : List UInt8) : Text :=
  (take carry octets).1 ++ abandon (take carry octets).2

@[simp] theorem finish_nil (carry : List UInt8) : finish carry [] = abandon carry := by
  simp [finish, take, read, characters]

/-- Octets may be taken in parts. -/
theorem finish_append (carry left right : List UInt8) :
    finish carry (left ++ right) =
      (take carry left).1 ++ finish (take carry left).2 right := by
  simp [finish, take, read_append, characters]

theorem finish_cons (carry octets : List UInt8) (octet : UInt8) :
    finish carry (octet :: octets) =
      characters (step carry octet).1 ++ finish (step carry octet).2 octets := by
  simp [finish, take, read, characters]

theorem decodeLossy_eq_finish (octets : List UInt8) : decodeLossy octets = finish [] octets :=
  rfl

/-- What octets stand for. A character stands for itself; where none is, one replacement character
stands for the longest part that begins a character, or else for a single octet. -/
inductive Decodes : List UInt8 → Text → Prop
  | nil : Decodes [] []
  | character (c : Char) {octets : List UInt8} {text : Text} (later : Decodes octets text) :
      Decodes (String.utf8EncodeChar c ++ octets) (c :: text)
  | illFormed {part octets : List UInt8} {text : Text} (filled : part ≠ [])
      (begins : Begins part ∨ part.length = 1)
      (incomplete : ∀ c, part ≠ String.utf8EncodeChar c)
      (longest : ∀ octet rest, octets = octet :: rest → ¬ Begins (part ++ [octet]))
      (later : Decodes octets text) : Decodes (part ++ octets) (replacement :: text)

/-- Octets are a beginning that the table lets continue. -/
structure Unfinished (carry : List UInt8) : Prop where
  begins : Begins carry
  continued : (continuation carry).isSome = true

theorem Unfinished.filled (unfinished : Unfinished carry) : carry ≠ [] := by
  rintro rfl
  have continued := unfinished.continued
  contradiction

theorem Unfinished.incomplete (unfinished : Unfinished carry) (c : Char) :
    carry ≠ String.utf8EncodeChar c := by
  rintro rfl
  have continued := unfinished.continued
  rw [continuation_encodeChar] at continued
  contradiction

/-- An octet that continues what is unfinished is kept, or ends the character. -/
theorem step_of_continues (continues : Continues carry octet) :
    step carry octet =
      if (continuation (carry ++ [octet])).isSome then ([], carry ++ [octet])
      else ([some (Char.ofNat (codePoint (carry ++ [octet])))], []) := by
  obtain ⟨low, high, range, inside⟩ := continues
  simp only [step, range, inside, decide_true, Bool.and_self, if_true]

/-- Any other octet gives up what is unfinished, and is read afresh. -/
theorem step_of_not_continues (unfinished : Unfinished carry) (other : ¬ Continues carry octet) :
    step carry octet = (none :: (start octet).1, (start octet).2) := by
  obtain ⟨⟨low, high⟩, range⟩ := Option.isSome_iff_exists.mp unfinished.continued
  have outside : ¬ (low ≤ octet ∧ octet ≤ high) := fun inside => other ⟨low, high, range, inside⟩
  simp only [step, range, Bool.and_eq_true, decide_eq_true_eq, outside, if_false]

theorem Decodes.whole (whole : IsWhole part) (later : Decodes octets text) :
    Decodes (part ++ octets) (Char.ofNat (codePoint part) :: text) := by
  have decodes := Decodes.character (Char.ofNat (codePoint part)) later
  rwa [whole.encodeChar_eq] at decodes

/-- Where no character is unfinished, decoding octets reads what they stand for if this holds of the
octets after the first. -/
theorem decodes_start (fresh : Decodes octets (finish [] octets))
    (carried : ∀ carry, Unfinished carry → Decodes (carry ++ octets) (finish carry octets)) :
    Decodes (octet :: octets) (characters (start octet).1 ++ finish (start octet).2 octets) := by
  unfold start
  split
  case isTrue small =>
    exact Decodes.whole (isWhole_single small) fresh
  case isFalse large =>
    split
    case isTrue leads =>
      exact carried [octet] ⟨begins_single_iff.mpr (.inr leads), leads⟩
    case isFalse alone =>
      have strange : ¬ Begins [octet] := by
        rw [begins_single_iff]
        exact not_or.mpr ⟨large, alone⟩
      have incomplete (c : Char) : [octet] ≠ String.utf8EncodeChar c := by
        intro same
        exact strange (same ▸ ⟨c, List.prefix_refl _⟩)
      exact Decodes.illFormed (List.cons_ne_nil octet []) (.inr rfl) incomplete
        (fun _ _ _ begins => strange begins.of_append) fresh

/-- The same after unfinished octets. -/
theorem decodes_step (unfinished : Unfinished carry) (fresh : Decodes octets (finish [] octets))
    (carried : ∀ carry, Unfinished carry → Decodes (carry ++ octets) (finish carry octets)) :
    Decodes (carry ++ octet :: octets)
      (characters (step carry octet).1 ++ finish (step carry octet).2 octets) := by
  by_cases continues : Continues carry octet
  case pos =>
    have either := begins_or_whole_of_continues unfinished.begins continues
    rw [step_of_continues continues, List.append_cons carry octet octets]
    split
    case isTrue continued =>
      rw [if_pos continued] at either
      exact carried (carry ++ [octet]) ⟨either, continued⟩
    case isFalse ended =>
      rw [if_neg ended] at either
      exact Decodes.whole either fresh
  case neg =>
    rw [step_of_not_continues unfinished continues]
    refine Decodes.illFormed unfinished.filled (.inl unfinished.begins) unfinished.incomplete ?_
      (decodes_start fresh carried)
    rintro _ _ ⟨rfl, rfl⟩ begins
    exact continues (continues_of_begins unfinished.filled begins)

/-- What is read after unfinished octets, or none, is what all of them stand for. -/
theorem decodes_finish (carry octets : List UInt8) (beginning : carry = [] ∨ Unfinished carry) :
    Decodes (carry ++ octets) (finish carry octets) := by
  induction octets generalizing carry with
  | nil =>
      rw [finish_nil]
      rcases beginning with rfl | unfinished
      · exact .nil
      · have rest : abandon carry = [replacement] := by simp [abandon, unfinished.filled]
        rw [rest]
        exact .illFormed unfinished.filled (.inl unfinished.begins) unfinished.incomplete
          (by simp) .nil
  | cons octet octets inductionHypothesis =>
      have fresh := inductionHypothesis [] (.inl rfl)
      have carried (carry : List UInt8) (unfinished : Unfinished carry) :=
        inductionHypothesis carry (.inr unfinished)
      rw [finish_cons]
      rcases beginning with rfl | unfinished
      · exact decodes_start fresh carried
      · exact decodes_step unfinished fresh carried

/-- The beginning of a character is kept whole until the character is. -/
theorem read_of_begins (part : List UInt8) (begins : Begins part) :
    ((part = [] ∨ Unfinished part) ∧ read [] part = ([], part)) ∨
      ∃ c, part = String.utf8EncodeChar c ∧ read [] part = ([some c], []) := by
  induction part using List.reverseRecOn with
  | nil => exact .inl ⟨.inl rfl, rfl⟩
  | append_singleton part octet inductionHypothesis =>
      rcases inductionHypothesis begins.of_append with ⟨rfl | unfinished, before⟩ | ⟨c, rfl, _⟩
      · rw [List.nil_append, read_single, step_nil, start]
        rcases begins_single_iff.mp begins with small | leads
        · rw [if_pos small]
          exact .inr ⟨_, (isWhole_single small).encodeChar_eq.symm, rfl⟩
        · rw [if_neg (large_of_leads leads), if_pos leads]
          exact .inl ⟨.inr ⟨begins, leads⟩, rfl⟩
      · have continues := continues_of_begins unfinished.filled begins
        have either := begins_or_whole_of_continues unfinished.begins continues
        rw [read_append, before, read_single, step_of_continues continues]
        split
        case isTrue continued =>
          exact .inl ⟨.inr ⟨begins, continued⟩, rfl⟩
        case isFalse ended =>
          rw [if_neg ended] at either
          exact .inr ⟨_, either.encodeChar_eq.symm, rfl⟩
      · obtain ⟨low, high, range, _⟩ := continues_of_begins String.utf8EncodeChar_ne_nil begins
        rw [continuation_encodeChar] at range
        contradiction

theorem read_encodeChar (c : Char) : read [] (String.utf8EncodeChar c) = ([some c], []) := by
  rcases read_of_begins _ ⟨c, List.prefix_refl _⟩ with ⟨empty | unfinished, _⟩ | ⟨d, same, reads⟩
  · exact absurd empty String.utf8EncodeChar_ne_nil
  · exact absurd rfl (unfinished.incomplete c)
  · rw [reads, encodeChar_injective same]

/-- A part that does not go on as a character is read as one replacement character. -/
theorem finish_of_unfinished (unfinished : Unfinished part)
    (longest : ∀ octet rest, octets = octet :: rest → ¬ Begins (part ++ [octet])) :
    finish part octets = replacement :: finish [] octets := by
  cases octets with
  | nil => simp [abandon, unfinished.filled]
  | cons octet octets =>
      have other : ¬ Continues part octet := fun continues =>
        longest octet octets rfl (begins_of_continues unfinished.begins continues)
      rw [finish_cons, finish_cons, step_of_not_continues unfinished other]
      rfl

/-- So is an octet that begins none. -/
theorem finish_of_strange (strange : ¬ Begins [octet]) :
    finish [] (octet :: octets) = replacement :: finish [] octets := by
  rw [begins_single_iff, not_or] at strange
  rw [finish_cons, step_nil, start, if_neg strange.1, if_neg strange.2]
  rfl

/-- Octets stand for one text, which is what they decode to. -/
theorem decodes_iff : Decodes octets text ↔ text = decodeLossy octets := by
  constructor
  case mp =>
    intro decodes
    induction decodes with
    | nil => rfl
    | character c later inductionHypothesis =>
        rw [decodeLossy_eq_finish, finish_append]
        simp [take, read_encodeChar, inductionHypothesis, decodeLossy_eq_finish, characters]
    | @illFormed part octets text filled begins incomplete longest later inductionHypothesis =>
        rw [inductionHypothesis, decodeLossy_eq_finish, decodeLossy_eq_finish]
        by_cases begun : Begins part
        case pos =>
          rcases read_of_begins part begun with ⟨empty | unfinished, reads⟩ | ⟨c, whole, _⟩
          · exact absurd empty filled
          · rw [finish_append, ← finish_of_unfinished unfinished longest]
            simp [take, reads, characters]
          · exact absurd whole (incomplete c)
        case neg =>
          obtain ⟨octet, rfl⟩ := List.length_eq_one_iff.mp (begins.resolve_left begun)
          exact (finish_of_strange begun).symm
  case mpr =>
    rintro rfl
    exact decodes_finish [] octets (.inl rfl)

example : decodeLossy [0xE2, 0x82, 0x41] = [replacement, 'A'] := by
  decide

/-- Nothing is lost of a text that is encoded. -/
theorem decodeLossy_encode (text : Text) : decodeLossy (encode text) = text := by
  refine (decodes_iff.mp ?_).symm
  induction text with
  | nil => exact .nil
  | cons c text inductionHypothesis => exact .character c inductionHypothesis

/-- Every character of a text that is encoded is read, and nothing stays unfinished. -/
theorem read_encode (text : Text) : read [] (encode text) = (text.map some, []) := by
  induction text with
  | nil => rfl
  | cons c text inductionHypothesis =>
      rw [encode, List.flatMap_cons, read_append, read_encodeChar, ← encode, inductionHypothesis]
      rfl

/-- Nor is any of it taken for ill-formed. -/
theorem decode?_encode (text : Text) : decode? (encode text) = some text := by
  have characters : text.mapM some = some text := by
    simpa using List.mapM_pure (m := Option) (l := text) (f := id)
  simp only [decode?, read_encode, List.mapM_map]
  exact characters

/-- Octets that are read without anything strange may be taken in two parts. -/
theorem exists_take_of_read (reads : read carry octets = (text.map some, [])) (count : Nat) :
    ∃ front back unfinished, text = front ++ back ∧
      take carry (octets.take count) = (front, unfinished) ∧
      read unfinished (octets.drop count) = (back.map some, []) := by
  have parts := read_append carry (octets.take count) (octets.drop count)
  rw [List.take_append_drop, reads, Prod.mk.injEq] at parts
  obtain ⟨front, back, rfl, items, later⟩ := List.map_eq_append_iff.mp parts.1
  refine ⟨front, back, (read carry (octets.take count)).2, rfl, ?_, Prod.ext later.symm ?_⟩
  · simp [take, ← items, characters, Function.comp_def]
  · exact parts.2.symm

/-- Different texts have different octets. -/
theorem encode_injective : Function.Injective encode := by
  intro left right same
  rw [← decodeLossy_encode left, same, decodeLossy_encode]

theorem finish_of_read (reads : read carry octets = (text.map some, [])) :
    finish carry octets = text := by
  simp [finish, take, reads, characters, abandon, Function.comp_def]

/-- Nothing is unfinished where nothing more has to be read. -/
theorem eq_nil_of_read_nil (reads : read carry [] = (text.map some, [])) :
    text = [] ∧ carry = [] := by
  rw [read, Prod.mk.injEq] at reads
  exact ⟨List.map_eq_nil_iff.mp reads.1.symm, reads.2⟩

end CommandLink.Utf8
