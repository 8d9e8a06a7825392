import CommandLink.Text.Basic
import CommandLink.Number.Double

/-!
# Values

The values that commands take and give: null, truth values, numbers, strings, arrays, and objects
whose fields are kept in the order of their names.
-/

namespace CommandLink

/-- A number is an integer or a double; the two are told apart even where they are equal. -/
inductive Number where
  | integer (n : Int)
  | float (d : Double)
deriving DecidableEq

/-- The double nearest to a number. -/
def Number.toDouble : Number → Double
  | .integer n => Double.ofInt n
  | .float d => d

/-- Numbers of one form are the same when their values are equal. -/
def Number.same : Number → Number → Bool
  | .integer a, .integer b => a == b
  | .float a, .float b => a.sameValue b
  | _, _ => false

/-- A value. The fields of an object have different names, in ascending order. -/
inductive Value where
  | null
  | bool (b : Bool)
  | number (n : Number)
  | string (text : Text)
  | array (items : List Value)
  | object (fields : List (Text × Value))

instance : Inhabited Value := ⟨.null⟩

namespace Value

/-- An integer as a value. -/
def ofInt (n : Int) : Value :=
  .number (.integer n)

/-- The integer of 64 bits that a value is, if it is one. -/
def toInt? : Value → Option Int
  | .number (.integer n) => if -0x8000000000000000 ≤ n && n < 0x8000000000000000 then some n else none
  | _ => none

/-- The string that a value is, if it is one. -/
def toText? : Value → Option Text
  | .string text => some text
  | _ => none

mutual

/-- Whether two values are the same. The two zeros are. -/
def same : Value → Value → Bool
  | .null, .null => true
  | .bool a, .bool b => a == b
  | .number a, .number b => a.same b
  | .string a, .string b => a == b
  | .array a, .array b => sameItems a b
  | .object a, .object b => sameFields a b
  | _, _ => false

/-- Whether two lists of values are the same, item by item. -/
def sameItems : List Value → List Value → Bool
  | [], [] => true
  | a :: as, b :: bs => same a b && sameItems as bs
  | _, _ => false

/-- Whether two lists of fields are the same, field by field. -/
def sameFields : List (Text × Value) → List (Text × Value) → Bool
  | [], [] => true
  | (name, a) :: as, (other, b) :: bs => name == other && same a b && sameFields as bs
  | _, _ => false

end

mutual

/-- Equality of values is decided by their structure. -/
def decEq : (left right : Value) → Decidable (left = right)
  | .null, .null => isTrue rfl
  | .bool a, .bool b => decidable_of_iff (a = b) (by simp)
  | .number a, .number b => decidable_of_iff (a = b) (by simp)
  | .string a, .string b => decidable_of_iff (a = b) (by simp)
  | .array a, .array b =>
      match decEqItems a b with
      | isTrue equal => isTrue (by rw [equal])
      | isFalse differ => isFalse (by simpa using differ)
  | .object a, .object b =>
      match decEqFields a b with
      | isTrue equal => isTrue (by rw [equal])
      | isFalse differ => isFalse (by simpa using differ)
  | .null, .bool _ | .null, .number _ | .null, .string _ | .null, .array _ | .null, .object _
  | .bool _, .null | .bool _, .number _ | .bool _, .string _ | .bool _, .array _
  | .bool _, .object _ | .number _, .null | .number _, .bool _ | .number _, .string _
  | .number _, .array _ | .number _, .object _ | .string _, .null | .string _, .bool _
  | .string _, .number _ | .string _, .array _ | .string _, .object _ | .array _, .null
  | .array _, .bool _ | .array _, .number _ | .array _, .string _ | .array _, .object _
  | .object _, .null | .object _, .bool _ | .object _, .number _ | .object _, .string _
  | .object _, .array _ => isFalse (by simp)

/-- Equality of lists of values. -/
def decEqItems : (left right : List Value) → Decidable (left = right)
  | [], [] => isTrue rfl
  | [], _ :: _ => isFalse (by simp)
  | _ :: _, [] => isFalse (by simp)
  | a :: as, b :: bs =>
      match decEq a b, decEqItems as bs with
      | isTrue head, isTrue tail => isTrue (by rw [head, tail])
      | isFalse differ, _ => isFalse (by simp [differ])
      | _, isFalse differ => isFalse (by simp [differ])

/-- Equality of lists of fields. -/
def decEqFields : (left right : List (Text × Value)) → Decidable (left = right)
  | [], [] => isTrue rfl
  | [], _ :: _ => isFalse (by simp)
  | _ :: _, [] => isFalse (by simp)
  | (name, a) :: as, (other, b) :: bs =>
      if names : name = other then
        match decEq a b, decEqFields as bs with
        | isTrue head, isTrue tail => isTrue (by rw [names, head, tail])
        | isFalse differ, _ => isFalse (by simp [differ])
        | _, isFalse differ => isFalse (by simp [differ])
      else isFalse (by simp [names])

end

instance : DecidableEq Value := decEq

/-- Put a field among fields that are in ascending order. It replaces one of the same name. -/
def insertField {α : Type} (name : Text) (value : α) : List (Text × α) → List (Text × α)
  | [] => [(name, value)]
  | (other, old) :: rest =>
      match compare name other with
      | .lt => (name, value) :: (other, old) :: rest
      | .eq => (name, value) :: rest
      | .gt => (other, old) :: insertField name value rest

/-- The fields of an object, each put in turn: the last of several with one name stays. -/
def orderFields {α : Type} (fields : List (Text × α)) : List (Text × α) :=
  fields.foldl (fun ordered field => insertField field.1 field.2 ordered) []

end Value

end CommandLink
