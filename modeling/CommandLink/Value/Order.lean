import CommandLink.Value.Printer

/-!
# Comparing values

The order in which the conditions of guards compare values.
-/

namespace CommandLink.Value

/-- Numbers compare as doubles, truth values and strings as such. All other pairs, those of two
different sorts among them, compare by the text that a reply would show. -/
def order : Value → Value → Ordering
  | .number a, .number b => a.toDouble.order b.toDouble
  | .bool a, .bool b => compare a b
  | .string a, .string b => compare a b
  | .null, .null => .eq
  | a, b => compare a.render b.render

end CommandLink.Value
