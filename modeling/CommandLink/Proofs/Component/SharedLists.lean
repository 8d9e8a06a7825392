import CommandLink.Component.SharedList
import Mathlib.Data.List.Forall2

/-!
# Merging shared lists

A merge goes over the incoming elements and puts each where it belongs, over another element or behind
the end (`merge_eq_foldl_put`). What comes out is the same as the incoming list, element by element.
Nothing is written before every incoming item has been found to be an element (`makeEqual_cases`).
-/

namespace CommandLink

theorem Number.same_self (number : Number) : number.same number = true := by
  cases number <;> simp [Number.same, Double.sameValue]

namespace Value

mutual

theorem same_self : (value : Value) → same value value = true
  | .null => rfl
  | .bool b => beq_self_eq_true b
  | .number n => n.same_self
  | .string text => beq_self_eq_true text
  | .array items => sameItems_self items
  | .object fields => sameFields_self fields

theorem sameItems_self : (items : List Value) → sameItems items items = true
  | [] => rfl
  | item :: items => by simp [sameItems, same_self item, sameItems_self items]

theorem sameFields_self : (fields : List (Text × Value)) → sameFields fields fields = true
  | [] => rfl
  | (_, value) :: fields => by simp [sameFields, same_self value, sameFields_self fields]

end

end Value

namespace ElementType

variable {type : ElementType} {items incoming : List Value}

/-- A list has what some items are as elements, one for one. -/
def Matches (type : ElementType) (items list : List Value) : Prop :=
  List.Forall₂ (fun item kept => ∃ element, type.element? item = some element ∧
    kept.same element = true) items list

theorem Matches.isSome_element? {list : List Value} (same : type.Matches items list) :
    ∀ item ∈ items, type.element? item ≠ none := by
  induction same with
  | nil => simp
  | cons first _ inductionHypothesis =>
      obtain ⟨element, found, _⟩ := first
      exact List.forall_mem_cons.mpr ⟨by simp [found], inductionHypothesis⟩

/-- Items are elements, all of them, or one of them is none. -/
theorem elements_cases (type : ElementType) (items : List Value) :
    (∃ incoming, type.elements items = .ok incoming ∧
      List.Forall₂ (fun item element => type.element? item = some element) items incoming) ∨
    ∃ fault, type.elements items = .error fault ∧ ∃ item ∈ items, type.element? item = none := by
  induction items with
  | nil => exact .inl ⟨[], rfl, .nil⟩
  | cons item items inductionHypothesis =>
      cases found : type.element? item with
      | none =>
          exact .inr ⟨type.mismatch item, by simp [elements, found], item, List.mem_cons_self,
            found⟩
      | some element =>
          rcases inductionHypothesis with ⟨incoming, all, each⟩ | ⟨fault, failed, strange⟩
          · exact .inl ⟨element :: incoming, by simp [elements, found, all, Except.map],
              .cons found each⟩
          · obtain ⟨other, member, none⟩ := strange
            exact .inr ⟨fault, by simp [elements, found, failed, Except.map], other,
              List.mem_cons_of_mem _ member, none⟩

end ElementType

namespace SharedList

variable {type : ElementType} {items : List Value}

/-- Put an element at its place in a list: over the one that is there, unless that is the same, or
behind the end. -/
def put (list : List Value) (arrival : Value × Nat) : List Value :=
  match list[arrival.2]? with
  | some old => if old.same arrival.1 then list else list.set arrival.2 arrival.1
  | none => list ++ [arrival.1]

theorem merge_nil (incoming : List Value) : merge [] incoming = incoming := by
  cases incoming <;> rfl

theorem merge_take (list incoming : List Value) :
    merge (list.take incoming.length) incoming = merge list incoming := by
  induction incoming generalizing list with
  | nil => cases list <;> rfl
  | cons new incoming inductionHypothesis =>
      cases list with
      | nil => rfl
      | cons old list => simp [merge, inductionHypothesis]

/-- What is put in front of elements that are still to be merged stands as the merge has it. -/
theorem put_append_cons (front olds : List Value) (old new : Value) :
    put (front ++ old :: olds) (new, front.length) =
      front ++ (if old.same new then old else new) :: olds := by
  have there : (front ++ old :: olds)[front.length]? = some old := by simp
  simp only [put, there]
  split <;> simp

theorem put_append_nil (front : List Value) (new : Value) :
    put front (new, front.length) = front ++ [new] := by
  simp [put]

/-- Elements that are put in their places one after the other. What was done before stays, and the
rest of the list is merged. -/
theorem foldl_put {olds incoming : List Value} (front : List Value)
    (short : olds.length ≤ incoming.length) :
    (incoming.zipIdx front.length).foldl put (front ++ olds) = front ++ merge olds incoming := by
  induction incoming generalizing front olds with
  | nil =>
      obtain rfl := List.eq_nil_of_length_eq_zero (Nat.le_zero.mp short)
      rfl
  | cons new incoming inductionHypothesis =>
      rw [List.zipIdx_cons, List.foldl_cons]
      cases olds with
      | nil =>
          have none : ([] : List Value).length ≤ incoming.length := Nat.zero_le _
          have rest := inductionHypothesis (front ++ [new]) none
          simp only [List.append_nil, put_append_nil, merge_nil] at rest ⊢
          simpa using rest
      | cons old olds =>
          have rest := inductionHypothesis (front ++ [if old.same new then old else new])
            (Nat.le_of_succ_le_succ short)
          simp only [List.append_assoc, List.singleton_append] at rest
          rw [put_append_cons, merge]
          simpa using rest

/-- A merge in place: surplus elements go, and then each incoming element is put where it belongs. -/
theorem merge_eq_foldl_put (list incoming : List Value) :
    merge list incoming = incoming.zipIdx.foldl put (list.take incoming.length) := by
  have merged := foldl_put [] (List.length_take_le incoming.length list)
  rw [merge_take] at merged
  exact merged.symm

/-- What is merged is the same as what came in, whatever was there before. -/
theorem matches_merge {incoming : List Value}
    (each : List.Forall₂ (fun item element => type.element? item = some element) items incoming)
    (list : List Value) : type.Matches items (merge list incoming) := by
  induction each generalizing list with
  | nil => cases list <;> exact .nil
  | @cons item element _ _ found _ inductionHypothesis =>
      cases list with
      | nil =>
          have rest := inductionHypothesis []
          rw [merge_nil] at rest
          exact .cons ⟨element, found, element.same_self⟩ rest
      | cons old list =>
          refine .cons ⟨element, found, ?_⟩ (inductionHypothesis list)
          split
          case isTrue same => exact same
          case isFalse => exact element.same_self

/-- Either every item is an element and the list comes to be the same as they are, or some item is
none and nothing at all changes. -/
theorem makeEqual_cases {σ : Type} (type : ElementType) (cell : Cell σ (List Value))
    (items : List Value) (state : σ) :
    (∃ next, makeEqual type cell items state = (.ok (), next) ∧
      type.Matches items (cell.read next)) ∨
    ∃ fault, makeEqual type cell items state = (.error fault, state) ∧
      ∃ item ∈ items, type.element? item = none := by
  rcases type.elements_cases items with ⟨incoming, all, each⟩ | ⟨fault, failed, strange⟩
  · refine .inl ⟨_, by rw [makeEqual, all], ?_⟩
    rw [Cell.modify, cell.read_write]
    exact matches_merge each (cell.read state)
  · exact .inr ⟨fault, by rw [makeEqual, failed], strange⟩

end SharedList

end CommandLink
