import CommandLink.Proofs.Text.Characters

/-!
# Texts in the order of their octets

Texts are compared character by character. Their octets compare in the same way
(`encode_lt_encode`): UTF-8 keeps the order of code points.
-/

namespace CommandLink.Utf8

/-- The octets of a smaller code point come first, whatever follows them. -/
theorem codeOctets_append_lt {code other : Nat} (less : code < other) (rest later : List Nat) :
    codeOctets code ++ rest < codeOctets other ++ later := by
  unfold codeOctets
  split_ifs <;> simp only [List.cons_append, List.nil_append, List.cons_lt_cons_iff] <;> omega

theorem lt_of_map_toNat_lt {octets others : List UInt8}
    (less : octets.map UInt8.toNat < others.map UInt8.toNat) : octets < others := by
  induction octets generalizing others with
  | nil =>
      cases others with
      | nil => cases less
      | cons other others => exact List.nil_lt_cons other others
  | cons octet octets inductionHypothesis =>
      cases others with
      | nil => cases less
      | cons other others =>
          rw [List.map_cons, List.map_cons, List.cons_lt_cons_iff, UInt8.toNat_inj] at less
          rw [List.cons_lt_cons_iff, UInt8.lt_iff_toNat_lt]
          exact less.imp_right fun both => ⟨both.1, inductionHypothesis both.2⟩

theorem encodeChar_append_lt {c d : Char} (less : c < d) (rest later : List UInt8) :
    String.utf8EncodeChar c ++ rest < String.utf8EncodeChar d ++ later := by
  refine lt_of_map_toNat_lt ?_
  rw [List.map_append, List.map_append, map_toNat_encodeChar, map_toNat_encodeChar]
  exact codeOctets_append_lt less _ _

/-- The octets of the smaller text come first. -/
theorem encode_lt_encode {text other : Text} (less : compare text other = .lt) :
    encode text < encode other := by
  induction text generalizing other with
  | nil =>
      cases other with
      | nil => cases less
      | cons d other =>
          obtain ⟨octet, octets, encoded⟩ :=
            List.exists_cons_of_ne_nil (String.utf8EncodeChar_ne_nil (c := d))
          rw [encode, encode, List.flatMap_cons, encoded]
          exact List.nil_lt_cons octet _
  | cons c text inductionHypothesis =>
      cases other with
      | nil => cases less
      | cons d other =>
          rw [List.compare_cons_cons, Ordering.then_eq_lt] at less
          rcases less with less | ⟨same, less⟩
          · exact encodeChar_append_lt (compareOfLessAndEq_eq_lt.mp less) _ _
          · obtain rfl := Std.LawfulEqOrd.eq_of_compare same
            exact List.append_left_lt (inductionHypothesis less)

end CommandLink.Utf8
