import CommandLink.Text.Utf8
import Mathlib.Data.List.Basic

/-!
# Characters and their octets

The decoder goes by a table of which octets may follow which. Here the table is compared with the
octets that characters are encoded in: an octet continues the beginning of a character exactly if
some character goes on with it (`continues_of_begins`, `begins_or_whole_of_continues`).
-/

namespace CommandLink.Utf8

/-- The octets of a code point. -/
def codeOctets (code : Nat) : List Nat :=
  if code < 0x80 then [code]
  else if code < 0x800 then [0xC0 + code / 0x40, 0x80 + code % 0x40]
  else if code < 0x10000 then
    [0xE0 + code / 0x1000, 0x80 + code / 0x40 % 0x40, 0x80 + code % 0x40]
  else
    [0xF0 + code / 0x40000, 0x80 + code / 0x1000 % 0x40, 0x80 + code / 0x40 % 0x40,
      0x80 + code % 0x40]

/-- Characters are encoded in the octets of their code points. -/
theorem map_toNat_encodeChar (c : Char) :
    (String.utf8EncodeChar c).map UInt8.toNat = codeOctets c.val.toNat := by
  have bound : c.val.toNat < 0x110000 := by
    rcases c.valid with low | high
    · change c.val.toNat < 0xD800 at low
      omega
    · exact high.2
  simp only [String.utf8EncodeChar, codeOctets]
  generalize c.val.toNat = code at bound
  split_ifs <;> first | omega | simp; omega

theorem toNat_ofNat {code : Nat} (valid : code.isValidChar) :
    (Char.ofNat code).val.toNat = code := by
  rw [Char.ofNat, dif_pos valid]
  rfl

/-- An octet may follow the beginning of a character. -/
def Continues (begun : List UInt8) (octet : UInt8) : Prop :=
  ∃ low high, continuation begun = some (low, high) ∧ low ≤ octet ∧ octet ≤ high

variable {lead second third octet : UInt8} {begun octets rest : List UInt8}

theorem isSome_continuation_lead :
    (continuation [lead]).isSome = true ↔ 0xC2 ≤ lead.toNat ∧ lead.toNat ≤ 0xF4 := by
  simp only [continuation, UInt8.lt_iff_toNat_lt, ← UInt8.toNat_inj, UInt8.reduceToNat]
  split_ifs <;> simp <;> omega

theorem large_of_leads (leads : (continuation [lead]).isSome = true) : ¬ lead < 0x80 := by
  rw [isSome_continuation_lead] at leads
  rw [UInt8.lt_iff_toNat_lt]
  change ¬ lead.toNat < 0x80
  omega

theorem isSome_continuation_pair :
    (continuation [lead, second]).isSome = true ↔ 0xE0 ≤ lead.toNat ∧ lead.toNat ≤ 0xF4 := by
  simp [continuation, UInt8.le_iff_toNat_le]

theorem isSome_continuation_triple :
    (continuation [lead, second, third]).isSome = true ↔
      0xF0 ≤ lead.toNat ∧ lead.toNat ≤ 0xF4 := by
  simp [continuation, UInt8.le_iff_toNat_le]

theorem continues_lead_iff :
    Continues [lead] octet ↔
      (0xC2 ≤ lead.toNat ∧ lead.toNat ≤ 0xF4) ∧ (0x80 ≤ octet.toNat ∧ octet.toNat ≤ 0xBF) ∧
        (lead.toNat = 0xE0 → 0xA0 ≤ octet.toNat) ∧ (lead.toNat = 0xED → octet.toNat ≤ 0x9F) ∧
        (lead.toNat = 0xF0 → 0x90 ≤ octet.toNat) ∧ (lead.toNat = 0xF4 → octet.toNat ≤ 0x8F) := by
  simp only [Continues, continuation, UInt8.lt_iff_toNat_lt, ← UInt8.toNat_inj, UInt8.reduceToNat]
  split_ifs <;> simp [UInt8.le_iff_toNat_le] <;> omega

theorem continues_pair_iff :
    Continues [lead, second] octet ↔
      (0xE0 ≤ lead.toNat ∧ lead.toNat ≤ 0xF4) ∧ 0x80 ≤ octet.toNat ∧ octet.toNat ≤ 0xBF := by
  simp only [Continues, continuation, Bool.and_eq_true, decide_eq_true_eq, UInt8.le_iff_toNat_le,
    UInt8.reduceToNat]
  split_ifs <;> simp [*]

theorem continues_triple_iff :
    Continues [lead, second, third] octet ↔
      (0xF0 ≤ lead.toNat ∧ lead.toNat ≤ 0xF4) ∧ 0x80 ≤ octet.toNat ∧ octet.toNat ≤ 0xBF := by
  simp only [Continues, continuation, Bool.and_eq_true, decide_eq_true_eq, UInt8.le_iff_toNat_le,
    UInt8.reduceToNat]
  split_ifs <;> simp [*]

/-- No octet follows more than three, or none at all. -/
theorem length_of_continues (continues : Continues begun octet) :
    1 ≤ begun.length ∧ begun.length ≤ 3 := by
  obtain ⟨low, high, range, _⟩ := continues
  unfold continuation at range
  split at range
  all_goals simp_all

/-- Octets begin a character. -/
def Begins (begun : List UInt8) : Prop :=
  ∃ c, begun <+: String.utf8EncodeChar c

theorem Begins.of_append (begins : Begins (begun ++ rest)) : Begins begun := by
  obtain ⟨c, whole⟩ := begins
  exact ⟨c, (List.prefix_append begun rest).trans whole⟩

/-- What follows the beginning of a character continues it. -/
theorem continues_of_begins (filled : begun ≠ []) (begins : Begins (begun ++ [octet])) :
    Continues begun octet := by
  obtain ⟨c, whole⟩ := begins
  have bound : c.val.toNat < 0xD800 ∨ 0xDFFF < c.val.toNat ∧ c.val.toNat < 0x110000 := c.valid
  have same : (begun ++ [octet]).map UInt8.toNat <+: codeOctets c.val.toNat :=
    map_toNat_encodeChar c ▸ whole.map UInt8.toNat
  generalize c.val.toNat = code at bound same
  match begun with
  | [] => exact absurd rfl filled
  | [lead] =>
      rw [continues_lead_iff]
      unfold codeOctets at same
      split_ifs at same <;> simp at same <;> omega
  | [lead, second] =>
      rw [continues_pair_iff]
      unfold codeOctets at same
      split_ifs at same <;> simp at same <;> omega
  | [lead, second, third] =>
      rw [continues_triple_iff]
      unfold codeOctets at same
      split_ifs at same <;> simp at same
      omega
  | _ :: _ :: _ :: _ :: _ =>
      have long := same.length_le
      unfold codeOctets at long
      simp only [List.length_map, List.length_append, List.length_cons] at long
      split_ifs at long <;> simp only [List.length_cons, List.length_nil] at long <;> omega

/-- Octets are those of one code point. -/
structure IsWhole (octets : List UInt8) : Prop where
  valid : (codePoint octets).isValidChar
  same : octets.map UInt8.toNat = codeOctets (codePoint octets)

/-- Whole octets are those of the character that they stand for. -/
theorem IsWhole.encodeChar_eq (whole : IsWhole octets) :
    String.utf8EncodeChar (Char.ofNat (codePoint octets)) = octets := by
  refine List.map_injective_iff.mpr (fun _ _ => UInt8.toNat.inj) ?_
  rw [map_toNat_encodeChar, toNat_ofNat whole.valid, whole.same]

/-- The octets of a code point that has a certain size. -/
theorem IsWhole.of_codePoint {code : Nat} (point : codePoint octets = code)
    (valid : code.isValidChar) (same : octets.map UInt8.toNat = codeOctets code) : IsWhole octets :=
  ⟨point ▸ valid, point ▸ same⟩

theorem isWhole_single (small : octet < 0x80) : IsWhole [octet] := by
  have small : octet.toNat < 0x80 := UInt8.lt_iff_toNat_lt.mp small
  have point : codePoint [octet] = octet.toNat := rfl
  refine .of_codePoint point ?_ ?_
  · exact .inl (by omega)
  · simp [codeOctets, small]

theorem isWhole_pair (continues : Continues [lead] second) (short : lead.toNat < 0xE0) :
    IsWhole [lead, second] := by
  rw [continues_lead_iff] at continues
  obtain ⟨code, point⟩ : ∃ code, code = lead.toNat % 0x20 * 0x40 + second.toNat % 0x40 := ⟨_, rfl⟩
  refine .of_codePoint point.symm ?_ ?_
  · exact .inl (by omega)
  · rw [codeOctets, if_neg (by omega), if_pos (by omega)]
    simp only [List.map_cons, List.map_nil, List.cons.injEq, and_true]
    omega

theorem isWhole_triple (continues : Continues [lead] second)
    (continuesSecond : Continues [lead, second] third) (short : lead.toNat < 0xF0) :
    IsWhole [lead, second, third] := by
  rw [continues_lead_iff] at continues
  rw [continues_pair_iff] at continuesSecond
  obtain ⟨code, point⟩ : ∃ code, code =
    (lead.toNat % 0x10 * 0x40 + second.toNat % 0x40) * 0x40 + third.toNat % 0x40 := ⟨_, rfl⟩
  refine .of_codePoint point.symm ?_ ?_
  · simp only [Nat.isValidChar]
    omega
  · rw [codeOctets, if_neg (by omega), if_neg (by omega), if_pos (by omega)]
    simp only [List.map_cons, List.map_nil, List.cons.injEq, and_true]
    omega

theorem isWhole_quadruple (continues : Continues [lead] second)
    (continuesSecond : Continues [lead, second] third)
    (continuesThird : Continues [lead, second, third] octet) :
    IsWhole [lead, second, third, octet] := by
  rw [continues_lead_iff] at continues
  rw [continues_pair_iff] at continuesSecond
  rw [continues_triple_iff] at continuesThird
  obtain ⟨code, point⟩ : ∃ code, code =
    ((lead.toNat % 8 * 0x40 + second.toNat % 0x40) * 0x40 + third.toNat % 0x40) * 0x40 +
      octet.toNat % 0x40 := ⟨_, rfl⟩
  refine .of_codePoint point.symm ?_ ?_
  · exact .inr (by omega)
  · rw [codeOctets, if_neg (by omega), if_neg (by omega), if_neg (by omega)]
    simp only [List.map_cons, List.map_nil, List.cons.injEq, and_true]
    omega

theorem IsWhole.begins (whole : IsWhole (begun ++ rest)) : Begins begun := by
  refine ⟨Char.ofNat (codePoint (begun ++ rest)), ?_⟩
  rw [whole.encodeChar_eq]
  exact List.prefix_append begun rest

theorem begins_or_whole_of_lead (continues : Continues [lead] octet) :
    if (continuation [lead, octet]).isSome then Begins [lead, octet]
    else IsWhole [lead, octet] := by
  have range := (continues_lead_iff.mp continues).1
  split
  case isFalse short =>
    rw [isSome_continuation_pair] at short
    exact isWhole_pair continues (by omega)
  case isTrue long =>
    rw [isSome_continuation_pair] at long
    have third : Continues [lead, octet] 0x80 := continues_pair_iff.mpr ⟨long, by decide⟩
    by_cases short : lead.toNat < 0xF0
    · exact IsWhole.begins (isWhole_triple continues third short)
    · have fourth : Continues [lead, octet, 0x80] 0x80 :=
        continues_triple_iff.mpr ⟨⟨by omega, long.2⟩, by decide⟩
      exact IsWhole.begins (isWhole_quadruple continues third fourth)

theorem begins_or_whole_of_pair (continues : Continues [lead] second)
    (continuesSecond : Continues [lead, second] octet) :
    if (continuation [lead, second, octet]).isSome then Begins [lead, second, octet]
    else IsWhole [lead, second, octet] := by
  have range := (continues_pair_iff.mp continuesSecond).1
  split
  case isFalse short =>
    rw [isSome_continuation_triple] at short
    exact isWhole_triple continues continuesSecond (by omega)
  case isTrue long =>
    rw [isSome_continuation_triple] at long
    have fourth : Continues [lead, second, octet] 0x80 :=
      continues_triple_iff.mpr ⟨long, by decide⟩
    exact IsWhole.begins (isWhole_quadruple continues continuesSecond fourth)

/-- An octet that continues the beginning of a character makes it whole or a longer beginning. -/
theorem begins_or_whole_of_continues (begins : Begins begun) (continues : Continues begun octet) :
    if (continuation (begun ++ [octet])).isSome then Begins (begun ++ [octet])
    else IsWhole (begun ++ [octet]) := by
  have bounds := length_of_continues continues
  match begun with
  | [] => simp at bounds
  | [lead] => exact begins_or_whole_of_lead continues
  | [lead, second] =>
      have continuesLead : Continues [lead] second := continues_of_begins (by simp) begins
      exact begins_or_whole_of_pair continuesLead continues
  | [lead, second, third] =>
      have continuesPair : Continues [lead, second] third := continues_of_begins (by simp) begins
      have beginsPair : Begins ([lead] ++ [second]) := Begins.of_append begins
      have continuesLead : Continues [lead] second := continues_of_begins (by simp) beginsPair
      exact isWhole_quadruple continuesLead continuesPair continues
  | _ :: _ :: _ :: _ :: _ =>
      simp only [List.length_cons] at bounds
      omega

theorem begins_of_continues (begins : Begins begun) (continues : Continues begun octet) :
    Begins (begun ++ [octet]) := by
  have either := begins_or_whole_of_continues begins continues
  split at either
  case isTrue => exact either
  case isFalse =>
    rw [← List.append_nil (begun ++ [octet])] at either
    exact either.begins

/-- Every lead octet is continued by some octet. -/
theorem exists_continues_lead (leads : (continuation [lead]).isSome = true) :
    ∃ octet, Continues [lead] octet := by
  rw [isSome_continuation_lead] at leads
  simp only [continues_lead_iff]
  by_cases three : lead.toNat = 0xE0
  · refine ⟨0xA0, leads, ?_⟩
    simp [three]
  by_cases four : lead.toNat = 0xF0
  · refine ⟨0x90, leads, ?_⟩
    simp [four]
  · refine ⟨0x80, leads, ?_⟩
    simp [three, four]

/-- An octet begins a character if it is one, or by the table if it leads more octets. -/
theorem begins_single_iff :
    Begins [octet] ↔ octet < 0x80 ∨ (continuation [octet]).isSome = true := by
  constructor
  case mp =>
    rintro ⟨c, whole⟩
    have bound : c.val.toNat < 0xD800 ∨ 0xDFFF < c.val.toNat ∧ c.val.toNat < 0x110000 := c.valid
    have same : [octet].map UInt8.toNat <+: codeOctets c.val.toNat :=
      map_toNat_encodeChar c ▸ whole.map UInt8.toNat
    rw [isSome_continuation_lead, UInt8.lt_iff_toNat_lt]
    change octet.toNat < 0x80 ∨ _
    generalize c.val.toNat = code at bound same
    unfold codeOctets at same
    split_ifs at same <;> simp at same <;> omega
  case mpr =>
    rintro (small | leads)
    · exact IsWhole.begins (isWhole_single small)
    · obtain ⟨second, continues⟩ := exists_continues_lead leads
      have either := begins_or_whole_of_lead continues
      split at either
      case isTrue => exact Begins.of_append either
      case isFalse => exact IsWhole.begins either

/-- The table continues no whole character. -/
theorem continuation_encodeChar (c : Char) : continuation (String.utf8EncodeChar c) = none := by
  have bound : c.val.toNat < 0xD800 ∨ 0xDFFF < c.val.toNat ∧ c.val.toNat < 0x110000 := c.valid
  have same := map_toNat_encodeChar c
  rw [← Option.not_isSome_iff_eq_none]
  generalize c.val.toNat = code at bound same
  generalize String.utf8EncodeChar c = octets at same
  match octets with
  | [] => simp [continuation]
  | [lead] =>
      rw [isSome_continuation_lead]
      unfold codeOctets at same
      split_ifs at same <;> simp at same
      omega
  | [lead, second] =>
      rw [isSome_continuation_pair]
      unfold codeOctets at same
      split_ifs at same <;> simp at same
      omega
  | [lead, second, third] =>
      rw [isSome_continuation_triple]
      unfold codeOctets at same
      split_ifs at same <;> simp at same
      omega
  | _ :: _ :: _ :: _ :: _ => simp [continuation]

/-- Different characters have different octets. -/
theorem encodeChar_injective : Function.Injective String.utf8EncodeChar := by
  intro c d same
  have left := ByteArray.utf8DecodeChar?_utf8EncodeChar_append (b := .empty) (c := c)
  have right := ByteArray.utf8DecodeChar?_utf8EncodeChar_append (b := .empty) (c := d)
  rw [same, right] at left
  exact Option.some.inj left.symm

end CommandLink.Utf8
