import CommandLink.Pattern.Basic

/-!
# Programs

A pattern as a list of instructions. A machine that runs them tries the first way of a fork before
the second; the distances of jumps count from the instruction itself.
-/

namespace CommandLink

/-- An instruction of the matching machine. -/
inductive Instruction where
  /-- Take one character of a set. -/
  | take (set : CharacterSet)
  | look (look : Look)
  /-- Go on in two ways, the first one first. -/
  | fork (first second : Int)
  | jump (distance : Int)
  | openGroup
  | closeGroup
  | accept

namespace Program

/-- A fork that prefers the first way if `greedy`, else the second. -/
def fork (greedy : Bool) (first second : Int) : Instruction :=
  if greedy then .fork first second else .fork second first

/-- Code one or more times over: after each time it may begin again. -/
def loop (greedy : Bool) (code : List Instruction) : List Instruction :=
  code ++ [fork greedy (-code.length) 1]

/-- Code any number of times. Code that can take nothing is entered once or not at all, and then
loops, so that the preferred way does not begin with an idle turn. -/
def star (greedy nullable : Bool) (code : List Instruction) : List Instruction :=
  if nullable then fork greedy 1 (code.length + 2) :: loop greedy code
  else fork greedy 1 (code.length + 2) :: (code ++ [.jump (-(code.length + 1 : Int))])

/-- Code at most `count` times, each time only after the time before. -/
def upTo (greedy : Bool) (code : List Instruction) : Nat → List Instruction
  | 0 => []
  | count + 1 =>
      let rest := upTo greedy code count
      fork greedy 1 (code.length + rest.length + 1) :: (code ++ rest)

/-- Code a fixed number of times. -/
def times (code : List Instruction) (count : Nat) : List Instruction :=
  (List.replicate count code).flatten

/-- Code repeated between two bounds. -/
def between (greedy nullable : Bool) (code : List Instruction) (least : Nat) :
    Option Nat → List Instruction
  | some most => times code least ++ upTo greedy code (most - least)
  | none =>
      match least with
      | 0 => star greedy nullable code
      | least + 1 => times code least ++ loop greedy code

/-- The bounds within which a repetition is carried out: what never takes a character is not
repeated. -/
def effectiveBounds (body : Pattern) (least : Nat) (most? : Option Nat) : Nat × Option Nat :=
  if body.onlyEmpty then (min least 1, some ((most?.map (min · 1)).getD 1)) else (least, most?)

/-- The length of the code of a repetition whose body has code of this length. -/
def sizeBetween (size least : Nat) : Option Nat → Nat
  | some most => size * least + (size + 1) * (most - least)
  | none =>
      match least with
      | 0 => size + 2
      | least + 1 => size * least + (size + 1)

/-- The code of a pattern. -/
def code : Pattern → List Instruction
  | .empty => []
  | .set set => [.take set]
  | .look look => [.look look]
  | .firstGroup body => .openGroup :: (code body ++ [.closeGroup])
  | .sequence first second => code first ++ code second
  | .choice first second =>
      let left := code first
      let right := code second
      .fork 1 (left.length + 2) :: (left ++ .jump (right.length + 1) :: right)
  | .repetition body least most? greedy =>
      let (least, most?) := effectiveBounds body least most?
      between greedy body.nullable (code body) least most?

/-- The length of the code of a pattern, found without writing it. -/
def size : Pattern → Nat
  | .empty => 0
  | .set _ | .look _ => 1
  | .firstGroup body => size body + 2
  | .sequence first second => size first + size second
  | .choice first second => size first + size second + 2
  | .repetition body least most? _ =>
      let (least, most?) := effectiveBounds body least most?
      sizeBetween (size body) least most?

/-- The program of a pattern. -/
def ofPattern (pattern : Pattern) : Array Instruction :=
  (code pattern ++ [Instruction.accept]).toArray

end Program

end CommandLink
