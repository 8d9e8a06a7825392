import CommandLink.Pattern.Program

/-!
# Searching

Where a pattern matches in a text: the leftmost match, and of those that begin there the preferred
one. No instruction is tried twice at one place, since what failed there once fails again.
-/

namespace CommandLink

/-- A match: from `first` up to `last`, and what the first group matched. -/
structure Match where
  first : Nat
  last : Nat
  group? : Option (Nat × Nat)
deriving DecidableEq, Repr

namespace Search

/-- A way to go on: an instruction at a place in the text, and the marks of the first group. -/
structure Thread where
  instruction : Nat
  place : Nat
  opened? : Option Nat := none
  group? : Option (Nat × Nat) := none

/-- A program and the text that it is run on. -/
structure Machine where
  program : Array Instruction
  text : Array Char

namespace Machine

/-- The number of instructions and places to try. -/
def size (machine : Machine) : Nat :=
  machine.program.size * (machine.text.size + 1)

/-- The character before a place. -/
def before? (machine : Machine) (place : Nat) : Option Char :=
  if place = 0 then none else machine.text[place - 1]?

/-- Go on at another instruction. -/
def Thread.go (thread : Thread) (distance : Int) : Thread :=
  { thread with instruction := (thread.instruction + distance).toNat }

/-- What an instruction makes of a thread: the threads to try instead, or none but a match. -/
def step (machine : Machine) (thread : Thread) : Instruction → List Thread
  | .take set =>
      match machine.text[thread.place]? with
      | some c =>
          if set.contains c then [{ Thread.go thread 1 with place := thread.place + 1 }] else []
      | none => []
  | .look look =>
      if look.holds (machine.before? thread.place) machine.text[thread.place]? then
        [Thread.go thread 1]
      else []
  | .fork first second => [Thread.go thread first, Thread.go thread second]
  | .jump distance => [Thread.go thread distance]
  | .openGroup => [{ Thread.go thread 1 with opened? := some thread.place }]
  | .closeGroup =>
      [{ Thread.go thread 1 with group? := thread.opened?.map fun opened => (opened, thread.place) }]
  | .accept => []

/-- Run threads, the first one first, until one accepts. `tried` marks the instructions that were
tried at a place. Without a match the marks are kept for the next search. -/
def run (machine : Machine) (first : Nat) :
    Nat → Array Bool → List Thread → Except (Array Bool) Match
  | 0, tried, _ => .error tried
  | _, tried, [] => .error tried
  | fuel + 1, tried, thread :: rest =>
      let mark := thread.instruction * (machine.text.size + 1) + thread.place
      if tried.getD mark true then machine.run first fuel tried rest
      else
        match machine.program[thread.instruction]? with
        | none => machine.run first fuel (tried.setIfInBounds mark true) rest
        | some .accept => .ok ⟨first, thread.place, thread.group?⟩
        | some instruction =>
            machine.run first fuel (tried.setIfInBounds mark true)
              (machine.step thread instruction ++ rest)

/-- Try the places from `first` on, `count` of them. -/
def runFrom (machine : Machine) (tried : Array Bool) (first : Nat) : Nat → Option Match
  | 0 => none
  | count + 1 =>
      match machine.run first (2 * machine.size + 2) tried [{ instruction := 0, place := first }] with
      | .ok found => some found
      | .error tried => machine.runFrom tried (first + 1) count

/-- The leftmost match that begins at `first` or later. -/
def find? (machine : Machine) (first : Nat) : Option Match :=
  machine.runFrom (Array.replicate machine.size false) first (machine.text.size + 1 - first)

/-- The last match, from a match on: each match begins where the one before it ended, or one
further if it would be empty there. At most `count` more are looked for. -/
def lastFrom (machine : Machine) (found : Match) : Nat → Match
  | 0 => found
  | count + 1 =>
      let next? :=
        match machine.find? found.last with
        | some next =>
            if next.first = next.last && next.last = found.last then
              machine.find? (found.last + 1)
            else some next
        | none => none
      match next? with
      | some next => machine.lastFrom next count
      | none => found

/-- The last of the matches that follow one another. -/
def last? (machine : Machine) : Option Match :=
  (machine.find? 0).map fun found => machine.lastFrom found (2 * machine.text.size + 2)

/-- What a match is taken for: the text of the first group, or all of it if the group has none. -/
def capture (machine : Machine) (found : Match) : Text :=
  let (first, last) := found.group?.getD (found.first, found.last)
  (machine.text.extract first last).toList

end Machine

end Search

namespace Pattern

/-- What the first match of a pattern in a text is taken for. -/
def firstMatch? (pattern : Pattern) (text : Text) : Option Text :=
  let machine : Search.Machine := ⟨Program.ofPattern pattern, text.toArray⟩
  (machine.find? 0).map machine.capture

/-- What the last match of a pattern in a text is taken for. -/
def lastMatch? (pattern : Pattern) (text : Text) : Option Text :=
  let machine : Search.Machine := ⟨Program.ofPattern pattern, text.toArray⟩
  machine.last?.map machine.capture

end Pattern

end CommandLink
