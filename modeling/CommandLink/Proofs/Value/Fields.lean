import CommandLink.Value.Basic
import Mathlib.Data.List.Induction
import Mathlib.Data.List.Pairwise

/-!
# Fields in order

What is among fields after another one was put there, and how fields stay in ascending order.
-/

namespace CommandLink.Value

variable {α : Type} {name : Text} {value : α} {fields : List (Text × α)}

/-- A field that is put among others is there, and no other field is new. -/
theorem mem_of_mem_insertField {field : Text × α} (member : field ∈ insertField name value fields) :
    field = (name, value) ∨ field ∈ fields := by
  induction fields with
  | nil => exact .inl (List.mem_singleton.mp member)
  | cons first rest inductionHypothesis =>
      unfold insertField at member
      split at member
      · exact List.mem_cons.mp member
      · rcases List.mem_cons.mp member with new | old
        · exact .inl new
        · exact .inr (List.mem_cons_of_mem _ old)
      · rcases List.mem_cons.mp member with old | later
        · exact .inr (old ▸ List.mem_cons_self)
        · exact (inductionHypothesis later).imp_right (List.mem_cons_of_mem _)

theorem mem_insertField_self : (name, value) ∈ insertField name value fields := by
  induction fields with
  | nil => exact List.mem_singleton_self _
  | cons first rest inductionHypothesis =>
      unfold insertField
      split
      · exact List.mem_cons_self
      · exact List.mem_cons_self
      · exact List.mem_cons_of_mem _ inductionHypothesis

/-- A field makes way only for one of the same name. -/
theorem mem_insertField_of_ne {field : Text × α} (other : field.1 ≠ name)
    (member : field ∈ fields) : field ∈ insertField name value fields := by
  induction fields with
  | nil => cases member
  | cons first rest inductionHypothesis =>
      unfold insertField
      split
      case h_1 => exact List.mem_cons_of_mem _ member
      case h_2 same =>
        refine List.mem_cons_of_mem _ ((List.mem_cons.mp member).resolve_left ?_)
        rintro rfl
        exact other (Std.LawfulEqOrd.eq_of_compare same).symm
      case h_3 =>
        rcases List.mem_cons.mp member with rfl | later
        · exact List.mem_cons_self
        · exact List.mem_cons_of_mem _ (inductionHypothesis later)

/-- What is among fields after one of a new name was put there. -/
theorem mem_insertField_iff {field : Text × α} (absent : ∀ field ∈ fields, field.1 ≠ name) :
    field ∈ insertField name value fields ↔ field = (name, value) ∨ field ∈ fields := by
  constructor
  · exact mem_of_mem_insertField
  · rintro (rfl | old)
    · exact mem_insertField_self
    · exact mem_insertField_of_ne (absent field old) old

/-- The names of fields after one was put among them. -/
theorem exists_mem_insertField_iff {other : Text} :
    (∃ value', (other, value') ∈ insertField name value fields) ↔
      other = name ∨ ∃ value', (other, value') ∈ fields := by
  constructor
  · rintro ⟨value', member⟩
    rcases mem_of_mem_insertField member with new | old
    · exact .inl (congrArg Prod.fst new)
    · exact .inr ⟨value', old⟩
  · rintro (rfl | ⟨value', old⟩)
    · exact ⟨value, mem_insertField_self⟩
    · by_cases same : other = name
      · exact ⟨value, same ▸ mem_insertField_self⟩
      · exact ⟨value', mem_insertField_of_ne same old⟩

/-- Fields are in ascending order, and no two have one name. -/
def IsOrdered (fields : List (Text × α)) : Prop :=
  fields.Pairwise fun left right => compare left.1 right.1 = .lt

theorem IsOrdered.insertField (ordered : IsOrdered fields) :
    IsOrdered (Value.insertField name value fields) := by
  induction fields with
  | nil => exact List.pairwise_singleton _ _
  | cons first rest inductionHypothesis =>
      obtain ⟨later, orderedRest⟩ := List.pairwise_cons.mp ordered
      unfold Value.insertField
      split
      case h_1 less =>
        refine List.pairwise_cons.mpr ⟨?_, ordered⟩
        rw [List.forall_mem_cons]
        exact ⟨less, fun field member => Std.TransCmp.lt_trans less (later field member)⟩
      case h_2 same =>
        obtain rfl := Std.LawfulEqOrd.eq_of_compare same
        exact List.pairwise_cons.mpr ⟨later, orderedRest⟩
      case h_3 greater =>
        refine List.pairwise_cons.mpr ⟨?_, inductionHypothesis orderedRest⟩
        intro field member
        rcases mem_of_mem_insertField member with rfl | old
        · exact Std.OrientedCmp.gt_iff_lt.mp greater
        · exact later field old

/-- Fields of one name are one field. -/
theorem IsOrdered.eq_of_mem (ordered : IsOrdered fields) {field other : Text × α}
    (member : field ∈ fields) (memberOther : other ∈ fields) (same : field.1 = other.1) :
    field = other := by
  have apart : fields.Pairwise fun left right => left.1 ≠ right.1 := by
    refine ordered.imp fun {left right} less equal => ?_
    simp [equal] at less
  have symm : Std.Symm fun left right : Text × α => left.1 ≠ right.1 := ⟨fun _ _ => Ne.symm⟩
  by_contra different
  exact apart.forall member memberOther different same

/-- What is among fields after one was put there in place of any other of its name. -/
theorem IsOrdered.mem_insertField_iff (ordered : IsOrdered fields) {field : Text × α} :
    field ∈ Value.insertField name value fields ↔
      field = (name, value) ∨ field ∈ fields ∧ field.1 ≠ name := by
  constructor
  · intro member
    by_cases same : field.1 = name
    · exact .inl (ordered.insertField.eq_of_mem member mem_insertField_self same)
    · exact (mem_of_mem_insertField member).imp_right fun old => ⟨old, same⟩
  · rintro (rfl | ⟨old, other⟩)
    · exact mem_insertField_self
    · exact mem_insertField_of_ne other old

theorem isOrdered_orderFields (fields : List (Text × α)) : IsOrdered (orderFields fields) := by
  suffices foldl : ∀ ordered : List (Text × α), IsOrdered ordered →
      IsOrdered (fields.foldl
        (fun ordered field => Value.insertField field.1 field.2 ordered) ordered) from
    foldl [] List.Pairwise.nil
  induction fields with
  | nil => exact fun _ ordered => ordered
  | cons field fields inductionHypothesis =>
      exact fun _ ordered => inductionHypothesis _ ordered.insertField

theorem orderFields_append_singleton (fields : List (Text × α)) (last : Text × α) :
    orderFields (fields ++ [last]) = insertField last.1 last.2 (orderFields fields) := by
  simp [orderFields]

/-- Of several fields with one name the last stays. -/
theorem mem_orderFields_iff {field : Text × α} :
    field ∈ orderFields fields ↔
      ∃ earlier later, fields = earlier ++ field :: later ∧ ∀ other ∈ later, other.1 ≠ field.1 := by
  induction fields using List.reverseRecOn with
  | nil => simp [orderFields]
  | append_singleton fields last inductionHypothesis =>
      rw [orderFields_append_singleton, (isOrdered_orderFields fields).mem_insertField_iff, inductionHypothesis]
      constructor
      · rintro (rfl | ⟨⟨earlier, later, rfl, unnamed⟩, other⟩)
        · exact ⟨fields, [], rfl, List.forall_mem_nil _⟩
        · refine ⟨earlier, later ++ [last], by simp, ?_⟩
          rw [List.forall_mem_append, List.forall_mem_singleton]
          exact ⟨unnamed, Ne.symm other⟩
      · rintro ⟨earlier, later, split, unnamed⟩
        rcases List.eq_nil_or_concat later with rfl | ⟨between, final, rfl⟩
        · exact .inl (List.append_singleton_inj.mp split).2.symm
        · rw [List.concat_eq_append] at split unnamed
          rw [← List.cons_append, ← List.append_assoc] at split
          obtain ⟨rfl, rfl⟩ := List.append_singleton_inj.mp split
          rw [List.forall_mem_append, List.forall_mem_singleton] at unnamed
          exact .inr ⟨⟨earlier, between, rfl, unnamed.1⟩, Ne.symm unnamed.2⟩

theorem mem_of_mem_orderFields {field : Text × α} (member : field ∈ orderFields fields) :
    field ∈ fields := by
  obtain ⟨earlier, later, rfl, _⟩ := mem_orderFields_iff.mp member
  exact List.mem_append_right earlier List.mem_cons_self

/-- Of every name a field stays. -/
theorem exists_mem_orderFields {field : Text × α} (member : field ∈ fields) :
    ∃ value, (field.1, value) ∈ orderFields fields := by
  induction fields using List.reverseRecOn with
  | nil => cases member
  | append_singleton fields last inductionHypothesis =>
      rw [orderFields_append_singleton, exists_mem_insertField_iff]
      rcases List.mem_append.mp member with old | new
      · exact .inr (inductionHypothesis old)
      · rw [List.mem_singleton.mp new]
        exact .inl rfl

/-- No field is lost exactly if fields of one name are one field. -/
theorem subset_orderFields_iff :
    fields ⊆ orderFields fields ↔
      ∀ left ∈ fields, ∀ right ∈ fields, left.1 = right.1 → left = right := by
  constructor
  · intro kept left memberLeft right memberRight same
    exact (isOrdered_orderFields fields).eq_of_mem (kept memberLeft) (kept memberRight) same
  · intro one field member
    obtain ⟨value, stays⟩ := exists_mem_orderFields member
    rwa [one field member (field.1, value) (mem_of_mem_orderFields stays) rfl]

/-- A field whose name comes after all others is put at the end. -/
theorem insertField_eq_append (after : ∀ field ∈ fields, compare field.1 name = .lt) :
    insertField name value fields = fields ++ [(name, value)] := by
  induction fields with
  | nil => rfl
  | cons first rest inductionHypothesis =>
      rw [List.forall_mem_cons] at after
      have greater : compare name first.1 = .gt := Std.OrientedCmp.gt_iff_lt.mpr after.1
      simp only [insertField, greater, inductionHypothesis after.2, List.cons_append]

/-- Fields in order stay as they are. -/
theorem IsOrdered.orderFields_eq (ordered : IsOrdered fields) : orderFields fields = fields := by
  suffices foldl : ∀ before : List (Text × α), IsOrdered (before ++ fields) →
      fields.foldl (fun ordered field => Value.insertField field.1 field.2 ordered) before =
        before ++ fields from foldl [] ordered
  clear ordered
  induction fields with
  | nil => exact fun before _ => (List.append_nil before).symm
  | cons field fields inductionHypothesis =>
      intro before ordered
      have after : ∀ other ∈ before, compare other.1 field.1 = .lt := fun other member =>
        (List.pairwise_append.mp ordered).2.2 other member field List.mem_cons_self
      rw [List.append_cons] at ordered ⊢
      rw [List.foldl_cons, insertField_eq_append after]
      exact inductionHypothesis _ ordered

theorem lookup_insertField : (insertField name value fields).lookup name = some value := by
  induction fields with
  | nil => simp [insertField]
  | cons first rest inductionHypothesis =>
      unfold insertField
      split
      case h_1 => simp
      case h_2 => simp
      case h_3 greater =>
        have other : (name == first.1) = false := by
          rw [beq_eq_false_iff_ne]
          rintro rfl
          simp at greater
        rw [List.lookup_cons, other]
        exact inductionHypothesis

/-- A field that is there already changes nothing. -/
theorem IsOrdered.insertField_eq_self (ordered : IsOrdered fields)
    (member : (name, value) ∈ fields) : Value.insertField name value fields = fields := by
  induction fields with
  | nil => cases member
  | cons first rest inductionHypothesis =>
      obtain ⟨later, orderedRest⟩ := List.pairwise_cons.mp ordered
      rcases List.mem_cons.mp member with rfl | memberRest
      · simp [Value.insertField]
      · have greater : compare name first.1 = .gt :=
          Std.OrientedCmp.gt_iff_lt.mpr (later (name, value) memberRest)
        simp only [Value.insertField, greater, inductionHypothesis orderedRest memberRest]

/-- Putting a field among others changes nothing exactly if it is there already. -/
theorem IsOrdered.insertField_eq_self_iff (ordered : IsOrdered fields) :
    Value.insertField name value fields = fields ↔ fields.lookup name = some value := by
  constructor
  · intro same
    rw [← same, lookup_insertField]
  · intro found
    obtain ⟨before, after, rfl, _⟩ := List.lookup_eq_some_iff.mp found
    exact ordered.insertField_eq_self (by simp)

end CommandLink.Value
