import CommandLink.Text.Basic
import CommandLink.Number.Double

/-!
# Edit distance

How many characters must be inserted, deleted or replaced to make one text of another, and the
likeness of two texts that follows from it.
-/

namespace CommandLink.EditDistance

/-- One row of the table from the row above it. The row above is given without its first entry,
which is `corner`; `left` is the first entry of this row and not part of the result. -/
def nextRow (c : Char) (corner left : Nat) : Text → List Nat → List Nat
  | d :: target, above :: row =>
      let entry := min (min (above + 1) (left + 1)) (if c = d then corner else corner + 1)
      entry :: nextRow c above entry target row
  | _, _ => []

/-- The last row of the table, from the row for the `count` characters passed so far. -/
def lastRow (target : Text) (count : Nat) (row : List Nat) : Text → List Nat
  | [] => row
  | c :: source => lastRow target (count + 1) (nextRow c count (count + 1) target row) source

/-- The number of edits between two texts. -/
def distance (source target : Text) : Nat :=
  (lastRow target 0 ((List.range target.length).map (· + 1)) source).getLast?.getD source.length

/-- One less the share of characters that must be edited; one for two empty texts. -/
def likeness (left right : Text) : Double :=
  if left.isEmpty && right.isEmpty then Double.ofInt 1
  else
    (Double.ofInt 1).sub
      (Double.ofRatio false (distance left right) (max left.length right.length))

end CommandLink.EditDistance
