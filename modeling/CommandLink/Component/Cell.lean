/-!
# Cells

A cell is a place in the state of a device that holds a value of its own.
-/

namespace CommandLink

/-- A place in `σ` that holds an `α`. What was written is read back. -/
structure Cell (σ α : Type) where
  read : σ → α
  write : α → σ → σ
  read_write : ∀ value state, read (write value state) = value

namespace Cell

variable {σ α : Type}

/-- Change what a cell holds. -/
def modify (cell : Cell σ α) (change : α → α) (state : σ) : σ :=
  cell.write (change (cell.read state)) state

/-- A cell in what a cell holds. -/
def comp {β : Type} (outer : Cell σ α) (inner : Cell α β) : Cell σ β where
  read state := inner.read (outer.read state)
  write value := outer.modify (inner.write value)
  read_write value state := by simp [modify, outer.read_write, inner.read_write]

end Cell

end CommandLink
