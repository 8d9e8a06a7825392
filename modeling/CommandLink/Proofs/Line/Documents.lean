import CommandLink.Proofs.Line.Scanning
import CommandLink.Proofs.Text.Trimming

/-!
# Documents in argument sections

The scan of an argument section passes over all that the reader takes for one document, and is then
as deep in brackets as before: the commas of a document are inside its brackets or its quotes. So a
section that is one document is one argument for the scan as well (`scan_of_read?`), and the arguments
of a section are what the scan gives (`split_eq_scan`).
-/

namespace CommandLink.Document

open Arguments

theorem isPlain_of_isDigit {c : Char} (digit : c.isDigit = true) : isPlain c = true :=
  isPlain_of digit (by decide)

theorem isPlain_of_isGap {c : Char} (gap : isGap c = true) : isPlain c = true :=
  isPlain_of gap (by decide)

variable {text rest : Text}

theorem skips_skipGap (depth : Nat) (text : Text) :
    Skips ⟨depth, .outside⟩ ⟨depth, .outside⟩ text (skipGap text) :=
  .takeWhile (fun _ => isPlain_of_isGap) depth text

theorem skips_of_readDigits {digits : Text} (read : readDigits text = some (digits, rest))
    (depth : Nat) : Skips ⟨depth, .outside⟩ ⟨depth, .outside⟩ text rest := by
  unfold readDigits at read
  dsimp only at read
  split at read
  · cases read
  · cases read
    exact .takeWhile (fun _ => isPlain_of_isDigit) depth text

theorem skips_of_readFraction {fraction : Text} (read : readFraction text = some (fraction, rest))
    (depth : Nat) : Skips ⟨depth, .outside⟩ ⟨depth, .outside⟩ text rest := by
  unfold readFraction at read
  split at read
  · exact (Skips.plain (by decide) depth _).trans (skips_of_readDigits read depth)
  · cases read
    exact .refl _ text

theorem skips_readSign (depth : Nat) (text : Text) :
    Skips ⟨depth, .outside⟩ ⟨depth, .outside⟩ text (readSign text).2 := by
  unfold readSign
  split
  · exact .plain (by decide) depth _
  · exact .plain (by decide) depth _
  · exact .refl _ text

theorem skips_of_readPower {power : Option Int} (read : readPower text = some (power, rest))
    (depth : Nat) : Skips ⟨depth, .outside⟩ ⟨depth, .outside⟩ text rest := by
  cases text with
  | nil =>
      cases read
      exact .refl _ []
  | cons c text =>
      rw [readPower] at read
      split at read
      case isTrue letter =>
        have plain : isPlain c = true := by
          simp only [Bool.or_eq_true, decide_eq_true_eq] at letter
          rcases letter with rfl | rfl <;> decide
        obtain ⟨⟨digits, rest'⟩, readDigits, read⟩ := Option.bind_eq_some_iff.mp read
        cases read
        exact ((Skips.plain plain depth text).trans (skips_readSign depth text)).trans
          (skips_of_readDigits readDigits depth)
      case isFalse =>
        cases read
        exact .refl _ _

theorem skips_of_readNumber {document : Document} (read : readNumber text = some (document, rest))
    (depth : Nat) : Skips ⟨depth, .outside⟩ ⟨depth, .outside⟩ text rest := by
  unfold readNumber at read
  obtain ⟨⟨digits, afterDigits⟩, readDigits, read⟩ := Option.bind_eq_some_iff.mp read
  have whole : Skips ⟨depth, .outside⟩ ⟨depth, .outside⟩ text afterDigits := by
    split at readDigits
    · exact (Skips.plain (by decide) depth _).trans (skips_of_readDigits readDigits depth)
    · exact skips_of_readDigits readDigits depth
  by_cases leadingZero : (digits.head? = some '0' && 1 < digits.length) = true
  · simp only [leadingZero, if_true] at read
    cases read
  · simp only [leadingZero] at read
    obtain ⟨⟨fraction, afterFraction⟩, readFraction, read⟩ := Option.bind_eq_some_iff.mp read
    obtain ⟨⟨power, afterPower⟩, readPower, read⟩ := Option.bind_eq_some_iff.mp read
    cases read
    exact (whole.trans (skips_of_readFraction readFraction depth)).trans
      (skips_of_readPower readPower depth)

theorem ne_of_hexValue? {c : Char} {value : Nat} (read : hexValue? c = some value) :
    c ≠ '"' ∧ c ≠ '\\' := by
  constructor
  · rintro rfl
    cases read
  · rintro rfl
    cases read

theorem skips_of_codeUnit? {a b c d : Char} {code : Nat} (read : codeUnit? a b c d = some code)
    (depth : Nat) (rest : Text) :
    Skips ⟨depth, .inside⟩ ⟨depth, .inside⟩ (a :: b :: c :: d :: rest) rest := by
  unfold codeUnit? at read
  obtain ⟨_, readA, read⟩ := Option.bind_eq_some_iff.mp read
  obtain ⟨_, readB, read⟩ := Option.bind_eq_some_iff.mp read
  obtain ⟨_, readC, read⟩ := Option.bind_eq_some_iff.mp read
  obtain ⟨_, readD, _⟩ := Option.bind_eq_some_iff.mp read
  have passes {c : Char} {value : Nat} (read : hexValue? c = some value) (rest : Text) :
      Skips ⟨depth, .inside⟩ ⟨depth, .inside⟩ (c :: rest) rest :=
    .quoted (ne_of_hexValue? read).1 (ne_of_hexValue? read).2 depth rest
  exact (((passes readA _).trans (passes readB _)).trans (passes readC _)).trans (passes readD rest)

/-- Behind a quote, reader and scan come to the same closing quote. -/
theorem skips_of_readString {pieces : List Piece} (read : readString text = some (pieces, rest))
    (depth : Nat) : Skips ⟨depth, .inside⟩ ⟨depth, .outside⟩ text rest := by
  fun_induction readString text generalizing pieces rest with
  | case1 => cases read
  | case2 later =>
      cases read
      exact .quoteEnd depth later
  | case3 a b c d later inductionHypothesis =>
      obtain ⟨code, readCode, read⟩ := Option.bind_eq_some_iff.mp read
      obtain ⟨⟨pieces, rest⟩, readRest, read⟩ := Option.bind_eq_some_iff.mp read
      cases read
      exact ((Skips.escape 'u' depth _).trans (skips_of_codeUnit? readCode depth later)).trans
        (inductionHypothesis readRest)
  | case4 c later _ inductionHypothesis =>
      obtain ⟨letter, _, read⟩ := Option.bind_eq_some_iff.mp read
      obtain ⟨⟨pieces, rest⟩, readRest, read⟩ := Option.bind_eq_some_iff.mp read
      cases read
      exact (Skips.escape c depth later).trans (inductionHypothesis readRest)
  | case5 => cases read
  | case6 c later notQuote _ _ allowed inductionHypothesis =>
      obtain ⟨⟨pieces, rest⟩, readRest, read⟩ := Option.bind_eq_some_iff.mp read
      cases read
      have notBackslash : c ≠ '\\' := by
        rintro rfl
        simp at allowed
      exact (Skips.quoted notQuote notBackslash depth later).trans (inductionHypothesis readRest)

/-- What readers with so much fuel take, the scan passes over. The readers of items and of fields
take the closing bracket as well. -/
structure ReadersSkip (fuel : Nat) : Prop where
  value : ∀ {text rest document}, readValue fuel text = some (document, rest) →
    ∀ depth, Skips ⟨depth, .outside⟩ ⟨depth, .outside⟩ text rest
  items : ∀ {text rest items}, readItems fuel text = some (items, rest) →
    ∀ depth, Skips ⟨depth + 1, .outside⟩ ⟨depth, .outside⟩ text rest
  fields : ∀ {text rest fields}, readFields fuel text = some (fields, rest) →
    ∀ depth, Skips ⟨depth + 1, .outside⟩ ⟨depth, .outside⟩ text rest

variable {fuel : Nat}

theorem ReadersSkip.value_succ (readers : ReadersSkip fuel) {document : Document}
    (read : readValue (fuel + 1) text = some (document, rest)) (depth : Nat) :
    Skips ⟨depth, .outside⟩ ⟨depth, .outside⟩ text rest := by
  refine (skips_skipGap depth text).trans ?_
  rw [readValue] at read
  generalize skipGap text = behind at read ⊢
  split at read
  case h_1 inside =>
    have entered := (Skips.brace depth inside).trans (skips_skipGap (depth + 1) inside)
    split at read
    case h_1 found =>
      cases read
      exact (found ▸ entered).trans (.braceEnd depth _)
    case h_2 =>
      obtain ⟨⟨fields, _⟩, readFields, read⟩ := Option.bind_eq_some_iff.mp read
      cases read
      exact entered.trans (readers.fields readFields depth)
  case h_2 inside =>
    have entered := (Skips.bracket depth inside).trans (skips_skipGap (depth + 1) inside)
    split at read
    case h_1 found =>
      cases read
      exact (found ▸ entered).trans (.bracketEnd depth _)
    case h_2 =>
      obtain ⟨⟨items, _⟩, readItems, read⟩ := Option.bind_eq_some_iff.mp read
      cases read
      exact entered.trans (readers.items readItems depth)
  case h_3 inside =>
    obtain ⟨⟨pieces, _⟩, readString, read⟩ := Option.bind_eq_some_iff.mp read
    cases read
    exact (Skips.quote depth inside).trans (skips_of_readString readString depth)
  case h_4 =>
    cases read
    exact .word "null" (by decide) depth _
  case h_5 =>
    cases read
    exact .word "true" (by decide) depth _
  case h_6 =>
    cases read
    exact .word "false" (by decide) depth _
  case h_7 => exact skips_of_readNumber read depth

theorem ReadersSkip.items_succ (readers : ReadersSkip fuel) {items : List Document}
    (read : readItems (fuel + 1) text = some (items, rest)) (depth : Nat) :
    Skips ⟨depth + 1, .outside⟩ ⟨depth, .outside⟩ text rest := by
  rw [readItems] at read
  obtain ⟨⟨item, behind⟩, readValue, read⟩ := Option.bind_eq_some_iff.mp read
  have first := (readers.value readValue (depth + 1)).trans (skips_skipGap (depth + 1) behind)
  dsimp only at read
  generalize skipGap behind = next at read first
  split at read
  case h_1 =>
    cases read
    exact first.trans (.bracketEnd depth _)
  case h_2 =>
    obtain ⟨⟨more, _⟩, readItems, read⟩ := Option.bind_eq_some_iff.mp read
    cases read
    exact (first.trans (.comma depth _)).trans (readers.items readItems depth)
  case h_3 => cases read

theorem ReadersSkip.fields_succ (readers : ReadersSkip fuel)
    {fields : List (List Piece × Document)}
    (read : readFields (fuel + 1) text = some (fields, rest)) (depth : Nat) :
    Skips ⟨depth + 1, .outside⟩ ⟨depth, .outside⟩ text rest := by
  refine (skips_skipGap (depth + 1) text).trans ?_
  rw [readFields] at read
  generalize skipGap text = opened at read ⊢
  split at read
  case h_2 => cases read
  case h_1 inside =>
    obtain ⟨⟨name, behind⟩, readName, read⟩ := Option.bind_eq_some_iff.mp read
    have named := ((Skips.quote (depth + 1) inside).trans
      (skips_of_readString readName (depth + 1))).trans (skips_skipGap (depth + 1) behind)
    dsimp only at read
    generalize skipGap behind = next at read named
    split at read
    case h_2 => cases read
    case h_1 afterColon =>
      obtain ⟨⟨value, behind⟩, readValue, read⟩ := Option.bind_eq_some_iff.mp read
      have field := ((named.trans (.plain (by decide) (depth + 1) afterColon)).trans
        (readers.value readValue (depth + 1))).trans (skips_skipGap (depth + 1) behind)
      dsimp only at read
      generalize skipGap behind = next at read field
      split at read
      case h_1 =>
        cases read
        exact field.trans (.braceEnd depth _)
      case h_2 =>
        obtain ⟨⟨more, _⟩, readFields, read⟩ := Option.bind_eq_some_iff.mp read
        cases read
        exact (field.trans (.comma depth _)).trans (readers.fields readFields depth)
      case h_3 => cases read

theorem readersSkip (fuel : Nat) : ReadersSkip fuel := by
  induction fuel with
  | zero =>
      refine ⟨?_, ?_, ?_⟩ <;> intro text rest result read
      · rw [readValue] at read; cases read
      · rw [readItems] at read; cases read
      · rw [readFields] at read; cases read
  | succ fuel inductionHypothesis =>
      exact ⟨inductionHypothesis.value_succ, inductionHypothesis.items_succ,
        inductionHypothesis.fields_succ⟩

/-- The scan passes over a whole document, and is outside brackets at its end. -/
theorem skips_of_read? {document : Document} (read : read? text = some document) (depth : Nat) :
    Skips ⟨depth, .outside⟩ ⟨depth, .outside⟩ text [] := by
  unfold read? at read
  split at read
  case h_2 => cases read
  case h_1 document rest readValue =>
    have passed := ((readersSkip _).value readValue depth).trans (skips_skipGap depth rest)
    split at read
    case isTrue ended => rwa [List.isEmpty_iff.mp ended] at passed
    case isFalse => cases read

end CommandLink.Document

namespace CommandLink.Arguments

theorem isPlain_of_isBlank {c : Char} (blank : isBlank c = true) : isPlain c = true :=
  isPlain_of blank (by decide)

/-- A section that is one document, with white space around it, is one argument for the scan. -/
theorem scan_of_read? {raw : Text} (read : (Document.read? (Text.trim raw)).isSome) :
    scan raw = [Text.trim raw] := by
  obtain ⟨document, read⟩ := Option.isSome_iff_exists.mp read
  obtain ⟨front, back, whole, blankFront, blankBack⟩ := Text.exists_eq_append_strip isBlank raw
  have passed : Skips .start .start raw [] := by
    have arePlain : ∀ {text : Text}, (∀ c ∈ text, isBlank c = true) →
        ∀ c ∈ text, isPlain c = true := fun blank c member => isPlain_of_isBlank (blank c member)
    have before := Skips.append_plain front (arePlain blankFront) 0 (Text.trim raw ++ back)
    have document := (Document.skips_of_read? read 0).append_right back
    have behind := Skips.append_plain back (arePlain blankBack) 0 []
    rw [List.append_nil] at behind
    have passed := (before.trans document).trans behind
    rwa [← List.append_assoc, Text.trim, ← whole] at passed
  rw [scan, passed.pieces_eq_singleton, List.map_singleton]

/-- A value that can be read is spelled by a document. -/
theorem scan_of_isSome_read? {raw : Text} (read : (Value.read? (Text.trim raw)).isSome = true) :
    scan raw = [Text.trim raw] :=
  scan_of_read? (Option.isSome_of_isSome_bind read)

/-- Arguments are what the scan gives, whether or not the section is a document. -/
theorem split_eq_scan (raw : Text) : split raw = scan raw := by
  unfold split
  dsimp only
  split
  case isTrue document =>
    rw [Bool.and_eq_true] at document
    exact (scan_of_isSome_read? document.2).symm
  case isFalse => rfl

/-- Looking for a document first never makes a difference. Every section has the arguments that the
scan alone gives it: if it is one whole object, array or string with white space around it, or any
other value, then the scan finds just that. -/
theorem scan_finds_documents (raw : Text) :
    split raw = scan raw ∧
      ((Value.read? (Text.trim raw)).isSome = true → scan raw = [Text.trim raw]) :=
  ⟨split_eq_scan raw, scan_of_isSome_read?⟩

/-- An object with commas, brackets and quotes in its name and its strings, and white space around
it. -/
theorem scan_finds_documents_nested :
    let raw : Text := " \x7b \"a,]\\\\\": [\"\\\",\", \x7b\x7d] \x7d\t"
    opensDocument (Text.trim raw) = true ∧ (Value.read? (Text.trim raw)).isSome = true ∧
      scan raw = ["\x7b \"a,]\\\\\": [\"\\\",\", \x7b\x7d] \x7d"] := by
  intro raw
  have opens : opensDocument (Text.trim raw) = true := by decide +kernel
  have reads : (Value.read? (Text.trim raw)).isSome = true := by decide +kernel
  exact ⟨opens, reads, (scan_finds_documents raw).2 reads⟩

end CommandLink.Arguments
