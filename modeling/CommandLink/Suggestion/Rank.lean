import CommandLink.Suggestion.EditDistance
import CommandLink.Text.LetterCase

/-!
# Suggestions

Which of the known names an unknown one may have been meant for.
-/

namespace CommandLink.Suggestion

/-- The least likeness of a name that is suggested, unless another is set. -/
def defaultThreshold : Double := Double.ofRatio false 6 10

/-- How far below the best a suggested name may be, unless another distance is set. -/
def defaultWindow : Double := Double.ofRatio false 1 10

/-- What a likeness, or the distance between two, is held against. Other than these it need not be
finite. -/
inductive Limit where
  | finite (value : Double)
  | infinite (negative : Bool)
  | notANumber
deriving DecidableEq

instance : Coe Double Limit := ⟨.finite⟩

/-- Whether a likeness is at least the limit. -/
def Limit.reachedBy (limit : Limit) (likeness : Double) : Bool :=
  match limit with
  | .finite value => (likeness.order value).isGE
  | .infinite negative => negative
  | .notANumber => false

/-- Whether a distance is greater than the limit. -/
def Limit.exceededBy (limit : Limit) (distance : Double) : Bool :=
  match limit with
  | .finite value => (distance.order value).isGT
  | .infinite negative => negative
  | .notANumber => false

/-- A name and its likeness to the input. -/
structure Candidate where
  likeness : Double
  name : Text

/-- Whether a candidate comes before another, or may: the likelier first, and of equally likely ones
the first by name. -/
def Candidate.precedes (left right : Candidate) : Bool :=
  match right.likeness.order left.likeness with
  | .lt => true
  | .eq => (compare left.name right.name).isLE
  | .gt => false

/-- The candidates that are like the input at all, best first. -/
def candidates (input : Text) (threshold : Limit) (names : List Text) : List Candidate :=
  ((names.map fun name => Candidate.mk (EditDistance.likeness input.toSmall name.toSmall) name).filter
    fun candidate => threshold.reachedBy candidate.likeness).mergeSort Candidate.precedes

/-- The names in order, but for those that an earlier one spells in other letter case. -/
def distinctNames (chosen : List Text) : List Text → List Text
  | [] => []
  | name :: rest =>
      if chosen.any (Text.sameName · name) then distinctNames chosen rest
      else name :: distinctNames (name :: chosen) rest

/-- The names that are at least as like the input as `threshold` and not more than `window` less so
than the best, best first. -/
def rank (input : Text) (names : List Text) (threshold window : Limit) : List Text :=
  match candidates input threshold names with
  | [] => []
  | best :: rest =>
      let close := (best :: rest).takeWhile fun candidate =>
        !window.exceededBy (best.likeness.sub candidate.likeness)
      distinctNames [] (close.map (·.name))

end CommandLink.Suggestion
