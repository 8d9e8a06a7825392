import CommandLink.Value.Printer
import CommandLink.Value.Reader
import Mathlib.Tactic.IntervalCases

/-!
# Strings in quotes

A text that is written in quotes is read back as it was, whatever characters it has, and what
follows the closing quote is left to read (`exists_readString_quote`).
-/

namespace CommandLink

/-- A code unit below the surrogates is a character of its own, whatever follows it. -/
theorem Piece.text?_unit {code : Nat} (low : code < 0xD800) (pieces : List Piece) :
    Piece.text? (.unit code :: pieces) = (Piece.text? pieces).map (Char.ofNat code :: ·) := by
  have notHigh : ¬ 0xD800 ≤ code := by omega
  have notLow : ¬ 0xDC00 ≤ code := by omega
  cases pieces with
  | nil => simp [Piece.text?, notHigh]
  | cons piece pieces =>
      cases piece with
      | char c =>
          simp only [Piece.text?, notHigh]
          cases Piece.text? pieces <;> rfl
      | unit next =>
          rw [Piece.text?]
          simp only [notHigh, notLow]
          cases Piece.text? (.unit next :: pieces) <;> rfl

theorem Piece.text?_char (c : Char) (pieces : List Piece) :
    Piece.text? (.char c :: pieces) = (Piece.text? pieces).map (c :: ·) := by
  rw [Piece.text?]
  cases Piece.text? pieces <;> rfl

namespace Value

/-- What a character is read as after it was written. -/
structure ReadsAs (c : Char) (piece : Piece) : Prop where
  read : ∀ rest, Document.readString (escape c ++ rest) =
    (Document.readString rest).map fun later => (piece :: later.1, later.2)
  text : ∀ pieces, Piece.text? (piece :: pieces) = (Piece.text? pieces).map (c :: ·)

theorem codeUnit?_hexDigit {code : Nat} (small : code < 0x20) :
    Document.codeUnit? '0' '0' (hexDigit (code / 16)) (hexDigit (code % 16)) = some code := by
  interval_cases code <;> decide

/-- A character with an escape of one letter. -/
theorem readsAs_of_letter {c letter : Char} (written : escape c = ['\\', letter])
    (other : letter ≠ 'u') (meant : Document.escaped? letter = some c) :
    ReadsAs c (.char c) where
  read rest := by
    rw [written]
    simp only [List.cons_append, List.nil_append]
    rw [Document.readString]
    · simp only [meant]
      cases Document.readString rest <;> rfl
    · rintro a b c d rest rfl
      simp at other
  text := Piece.text?_char c

/-- Another control character is written as its code. -/
theorem readsAs_of_code {c : Char} (small : c.toNat < 0x20)
    (written : escape c =
      ['\\', 'u', '0', '0', hexDigit (c.toNat / 16), hexDigit (c.toNat % 16)]) :
    ReadsAs c (.unit c.toNat) where
  read rest := by
    rw [written]
    simp only [List.cons_append, List.nil_append]
    rw [Document.readString, codeUnit?_hexDigit small]
    cases Document.readString rest <;> rfl
  text pieces := by
    rw [Piece.text?_unit (by omega), Char.ofNat_toNat]

/-- All others stand for themselves. -/
theorem readsAs_self {c : Char} (large : ¬ c.toNat < 0x20) (notQuote : c ≠ '"')
    (notBackslash : c ≠ '\\') (written : escape c = [c]) : ReadsAs c (.char c) where
  read rest := by
    rw [written, List.singleton_append, Document.readString]
    · simp only [notBackslash, large]
      cases Document.readString rest <;> rfl
    all_goals simp_all
  text := Piece.text?_char c

/-- Every character is read as it was written. -/
theorem exists_readsAs (c : Char) : ∃ piece, ReadsAs c piece := by
  by_cases special : c ∈ ['"', '\\', '\n', '\r', '\t', '\x08', '\x0c']
  case pos =>
    simp only [List.mem_cons, List.not_mem_nil, or_false] at special
    rcases special with rfl | rfl | rfl | rfl | rfl | rfl | rfl
    all_goals exact ⟨_, readsAs_of_letter rfl (by decide) rfl⟩
  case neg =>
    simp only [List.mem_cons, List.not_mem_nil, or_false, not_or] at special
    by_cases small : c.toNat < 0x20
    · exact ⟨_, readsAs_of_code small (by simp [escape, special, small])⟩
    · exact ⟨_, readsAs_self small special.1 special.2.1 (by simp [escape, special, small])⟩

/-- A text in quotes is read as it was written, up to the closing quote. -/
theorem exists_readString_quote (text : Text) :
    ∃ pieces, Piece.text? pieces = some text ∧ ∀ rest,
      Document.readString (text.flatMap escape ++ '"' :: rest) = some (pieces, rest) := by
  induction text with
  | nil => exact ⟨[], rfl, fun _ => rfl⟩
  | cons c text inductionHypothesis =>
      obtain ⟨pieces, meant, read⟩ := inductionHypothesis
      obtain ⟨piece, readsAs⟩ := exists_readsAs c
      refine ⟨piece :: pieces, ?_, fun rest => ?_⟩
      · rw [readsAs.text, meant, Option.map_some]
      · rw [List.flatMap_cons, List.append_assoc, readsAs.read, read, Option.map_some]

end Value

end CommandLink
