import CommandLink.Guard.Condition
import CommandLink.Proofs.Line.Values
import Mathlib.Data.List.Infix

/-!
# Conditions written out

A text is cut at the first operator in it, and of the operators that begin at one place the longest is
taken (`Operator.split?_eq_some_iff`). A blank stands on either side of the operator when a condition is
shown, so that neither the end of the path nor the value can be taken for a part of it: what is shown of
a condition is read as the same condition (`Condition.parse_display`), if its path holds no operator and
its value is one that can be told from its text.
-/

namespace CommandLink

namespace Operator

variable {operator other : Operator} {text before after front back rest : Text}

theorem symbol_ne_nil (operator : Operator) : operator.symbol ≠ [] := by
  cases operator <;> exact List.cons_ne_nil _ _

theorem length_symbol_le (operator : Operator) : operator.symbol.length ≤ 2 := by
  cases operator <;> decide

theorem blank_notMem_symbol (operator : Operator) : ' ' ∉ operator.symbol := by
  cases operator <;> decide

theorem symbol_injective (same : operator.symbol = other.symbol) : operator = other := by
  cases operator <;> cases other <;> first | rfl | cases same

/-- The operator that is found in front of a text is the longest one there. -/
theorem leading?_spec (text : Text) :
    match leading? text with
    | some (operator, rest) => text = operator.symbol ++ rest ∧
        ∀ other : Operator, other.symbol <+: text → other.symbol.length ≤ operator.symbol.length
    | none => ∀ operator : Operator, ¬ operator.symbol <+: text := by
  fun_cases leading? text
  case case1 | case2 | case3 | case4 => exact ⟨rfl, fun other _ => other.length_symbol_le⟩
  case case5 rest single =>
    refine ⟨rfl, fun other leads => ?_⟩
    obtain ⟨back, same⟩ := leads
    cases other with
    | lt | gt => exact le_rfl
    | le => exact (single back (List.cons.inj same).2.symm).elim
    | ge | eq | ne => cases same
  case case6 rest single =>
    refine ⟨rfl, fun other leads => ?_⟩
    obtain ⟨back, same⟩ := leads
    cases other with
    | lt | gt => exact le_rfl
    | ge => exact (single back (List.cons.inj same).2.symm).elim
    | le | eq | ne => cases same
  case case7 noLe noGe noEq noNe noLt noGt =>
    rintro operator ⟨rest, same⟩
    cases operator with
    | lt => exact noLt rest same.symm
    | gt => exact noGt rest same.symm
    | le => exact noLe rest same.symm
    | ge => exact noGe rest same.symm
    | eq => exact noEq rest same.symm
    | ne => exact noNe rest same.symm

/-- The first operator of a text, and what is before and behind it: no operator begins further to the
left, and none that begins there is longer. -/
structure IsFirst (text before : Text) (operator : Operator) (after : Text) : Prop where
  whole : text = before ++ (operator.symbol ++ after)
  least : ∀ (other : Operator) (front back : Text), text = front ++ (other.symbol ++ back) →
    before.length < front.length ∨
      before.length = front.length ∧ other.symbol.length ≤ operator.symbol.length

theorem split?_spec (text : Text) :
    match split? text with
    | some (before, operator, after) => IsFirst text before operator after
    | none => ∀ (operator : Operator) (front back : Text),
        text ≠ front ++ (operator.symbol ++ back) := by
  induction text with
  | nil =>
      intro operator front back same
      have none_left := (List.nil_eq_append_iff.mp same).2
      exact operator.symbol_ne_nil (List.append_eq_nil_iff.mp none_left).1
  | cons c text inductionHypothesis =>
      have leads := leading?_spec (c :: text)
      cases found : leading? (c :: text) with
      | some leading =>
          obtain ⟨operator, rest⟩ := leading
          rw [found] at leads
          simp only [split?, found]
          obtain ⟨whole, longest⟩ := leads
          refine ⟨whole, fun other front back same => ?_⟩
          cases front with
          | nil => exact .inr ⟨rfl, longest other ⟨back, same.symm⟩⟩
          | cons => exact .inl (Nat.succ_pos _)
      | none =>
          rw [found] at leads
          simp only [split?, found]
          -- No operator begins with the first character, so all of them are shifted by one.
          have later {other : Operator} {front back : Text}
              (same : c :: text = front ++ (other.symbol ++ back)) :
              ∃ rest, front = c :: rest ∧ text = rest ++ (other.symbol ++ back) := by
            cases front with
            | nil => exact (leads other ⟨back, same.symm⟩).elim
            | cons d rest =>
                obtain ⟨rfl, equal⟩ := List.cons.inj same
                exact ⟨rest, rfl, equal⟩
          cases cut : split? text with
          | none =>
              rw [cut] at inductionHypothesis
              intro operator front back same
              obtain ⟨rest, _, equal⟩ := later same
              exact inductionHypothesis operator rest back equal
          | some parts =>
              obtain ⟨before, operator, after⟩ := parts
              rw [cut] at inductionHypothesis
              obtain ⟨whole, least⟩ := inductionHypothesis
              refine ⟨congrArg (c :: ·) whole, fun other front back same => ?_⟩
              obtain ⟨rest, rfl, equal⟩ := later same
              simpa using least other rest back equal

/-- A text has one first operator. -/
theorem IsFirst.unique (first : IsFirst text before operator after)
    (second : IsFirst text front other back) :
    before = front ∧ operator = other ∧ after = back := by
  have forth := first.least other front back second.whole
  have reverse := second.least operator before after first.whole
  have whole := first.whole.symm.trans second.whole
  obtain ⟨rfl, rest⟩ := List.append_inj whole (by omega)
  obtain ⟨symbols, rfl⟩ := List.append_inj rest (by omega)
  exact ⟨rfl, symbol_injective symbols, rfl⟩

theorem split?_eq_some_iff :
    split? text = some (before, operator, after) ↔ IsFirst text before operator after := by
  have spec := split?_spec text
  constructor
  · intro cut
    rwa [cut] at spec
  · intro first
    cases cut : split? text with
    | none =>
        rw [cut] at spec
        exact (spec operator before after first.whole).elim
    | some parts =>
        obtain ⟨front, other, back⟩ := parts
        rw [cut] at spec
        obtain ⟨rfl, rfl, rfl⟩ := first.unique spec
        rfl

/-- No operator is before the first. -/
theorem IsFirst.clear (first : IsFirst text before operator after) (other : Operator) :
    ¬ other.symbol <:+: before := by
  rintro ⟨front, back, inside⟩
  have found : text = front ++ (other.symbol ++ (back ++ (operator.symbol ++ after))) := by
    simp [first.whole, ← inside]
  have least := first.least other front _ found
  have filled := List.length_pos_iff.mpr other.symbol_ne_nil
  rw [← inside, List.length_append, List.length_append] at least
  omega

/-- An operator that begins before a blank also ends before it. -/
theorem symbol_prefix_of_append_blank (same : other.symbol ++ back = front ++ ' ' :: rest) :
    other.symbol <+: front := by
  rcases List.append_eq_append_iff.mp same with ⟨middle, whole, _⟩ | ⟨middle, whole, blank⟩
  · exact ⟨middle, whole.symm⟩
  · cases middle with
    | nil => exact ⟨[], by rw [whole, List.append_nil, List.append_nil]⟩
    | cons c middle =>
        obtain ⟨rfl, _⟩ := List.cons.inj blank
        exact (other.blank_notMem_symbol (by simp [whole])).elim

/-- Behind a text without operators and a blank, an operator that a blank follows is the first. -/
theorem isFirst_of_clear (clear : ∀ other : Operator, ¬ other.symbol <:+: front)
    (operator : Operator) (back : Text) :
    IsFirst (front ++ ' ' :: (operator.symbol ++ ' ' :: back)) (front ++ [' ']) operator
      (' ' :: back) where
  whole := by simp
  least other left right same := by
    rcases List.append_eq_append_iff.mp same with ⟨middle, rfl, blank⟩ | ⟨middle, rfl, found⟩
    · cases middle with
      | nil =>
          have atBlank : other.symbol ++ right = [] ++ ' ' :: (operator.symbol ++ ' ' :: back) :=
            blank.symm
          exact (other.symbol_ne_nil
            (List.prefix_nil.mp (symbol_prefix_of_append_blank atBlank))).elim
      | cons c middle =>
          obtain ⟨rfl, found⟩ := List.cons.inj blank
          cases middle with
          | nil =>
              have ends := symbol_prefix_of_append_blank found.symm
              exact .inr ⟨by simp, ends.length_le⟩
          | cons d middle => exact .inl (by simp)
    · have inside := (symbol_prefix_of_append_blank found).isInfix
      exact (clear other (inside.trans (List.suffix_append left middle).isInfix)).elim

end Operator

namespace Value

/-- A value that can be told from the text that shows it: one that is shown as JSON and can be read
back, or a string that is not JSON itself. -/
inductive Legible : Value → Prop where
  | bool (b : Bool) : Legible (.bool b)
  | number {n : Number} (reads : read? (compact (.number n)) = some (.number n)) :
      Legible (.number n)
  | array {items : List Value} (reads : read? (compact (.array items)) = some (.array items)) :
      Legible (.array items)
  | object {fields : List (Text × Value)}
      (reads : read? (compact (.object fields)) = some (.object fields)) : Legible (.object fields)
  | string {text : Text} (trimmed : Text.trim text = text) (filled : text ≠ [])
      (unread : read? text = none) : Legible (.string text)

/-- What JSON text is read back is not empty. -/
theorem compact_ne_nil {value : Value} (reads : read? value.compact = some value) :
    value.compact ≠ [] := by
  intro empty
  rw [empty] at reads
  cases reads

/-- What is shown of a legible value is not empty, has no blank ends, and is taken for that value. -/
theorem Legible.shown {value : Value} (legible : Legible value) :
    Text.trim value.render = value.render ∧ value.render ≠ [] ∧
      (read? value.render).getD (.string value.render) = value := by
  cases legible with
  | bool b => cases b <;> decide
  | number reads | array reads | object reads =>
      exact ⟨(tight_compact _).trim_eq, compact_ne_nil reads, by simp [render, reads]⟩
  | string trimmed filled unread => exact ⟨trimmed, filled, by simp [render, unread]⟩

end Value

namespace Condition

/-- A path that a condition can be given on: nothing in it is taken for an operator. The other
operators begin with one of these. -/
structure IsPath (path : Text) : Prop where
  trimmed : Text.trim path = path
  filled : path ≠ []
  clear : ∀ symbol ∈ (["<", ">", "==", "!="] : List Text), ¬ symbol <:+: path

theorem IsPath.clear_symbol {path : Text} (isPath : IsPath path) (operator : Operator) :
    ¬ operator.symbol <:+: path := by
  have shorter : ∃ symbol ∈ (["<", ">", "==", "!="] : List Text), symbol <+: operator.symbol := by
    cases operator <;> decide
  obtain ⟨symbol, listed, leads⟩ := shorter
  exact fun inside => isPath.clear symbol listed (leads.isInfix.trans inside)

/-- Every condition that is read has such a path. -/
theorem isPath_of_parse {text : Text} {condition : Condition} (read : parse text = .ok condition) :
    IsPath condition.path := by
  unfold parse at read
  split at read
  case h_1 => cases read
  case h_2 before operator after cut =>
    have first := Operator.split?_eq_some_iff.mp cut
    dsimp only at read
    split at read
    case isTrue => cases read
    case isFalse some_text =>
      simp only [Bool.or_eq_true, List.isEmpty_iff, not_or] at some_text
      obtain rfl := Except.ok.inj read
      obtain ⟨left, right, whole, _⟩ := Text.exists_eq_append_strip isBlank before
      have clear (operator : Operator) : ¬ operator.symbol <:+: Text.trim before :=
        fun inside => first.clear operator (inside.trans ⟨left, right, whole.symm⟩)
      refine ⟨Text.trim_trim before, some_text.1, ?_⟩
      simp only [List.forall_mem_cons, List.not_mem_nil, false_implies, implies_true, and_true]
      exact ⟨clear .lt, clear .gt, clear .eq, clear .ne⟩

/-- What is shown of a condition is read as the same condition. -/
theorem parse_display (condition : Condition) (isPath : IsPath condition.path)
    (legible : condition.value.Legible) : parse condition.display = .ok condition := by
  obtain ⟨path, operator, value⟩ := condition
  obtain ⟨trimmed, filled, taken⟩ := legible.shown
  have first := Operator.isFirst_of_clear isPath.clear_symbol operator value.render
  have blank : ∀ c ∈ [' '], isBlank c = true := List.forall_mem_singleton.mpr rfl
  have pathTrimmed : Text.trim (path ++ [' ']) = path :=
    (Text.trim_append_right path blank).trans isPath.trimmed
  have valueTrimmed : Text.trim (' ' :: value.render) = value.render :=
    (Text.trim_cons_of_isBlank (by decide) _).trans trimmed
  have some_text : (path.isEmpty || value.render.isEmpty) = false := by
    simp [isPath.filled, filled]
  rw [parse, display, Operator.split?_eq_some_iff.mpr first]
  simp only [pathTrimmed, valueTrimmed, some_text, taken]
  rfl

/-- Single characters of operators at the end of a path, and operators in a value, do not count. -/
theorem parse_display_bareValue :
    let condition : Condition := ⟨"Lens.f= !", .le, .string "a<b == c"⟩
    condition.display = "Lens.f= ! <= a<b == c".toList ∧
      parse condition.display = .ok condition := by
  intro condition
  have isPath : IsPath condition.path := ⟨by decide, by decide, by decide⟩
  have legible : condition.value.Legible := .string (by decide) (by decide) (by decide +kernel)
  exact ⟨by decide, condition.parse_display isPath legible⟩

end Condition

end CommandLink
