/-!
# Buffers that grow in steps

A buffer starts with room for one step and gets room for one more each time an item arrives while it
is full. `Buffer.extend` also tells the capacities it went through, since each growth is recorded.
-/

namespace LineShell

/-- Items in order of arrival, and how many there is room for. -/
structure Buffer (α : Type) where
  items : Array α
  capacity : Nat

namespace Buffer

variable {α : Type}

def empty (step : Nat) : Buffer α :=
  ⟨#[], step⟩

/-- A buffer after some growth, with the capacities it grew to, the last one first. -/
structure Grown (α : Type) where
  buffer : Buffer α
  capacities : List Nat

def Grown.push (step : Nat) (grown : Grown α) (item : α) : Grown α :=
  match grown with
  | ⟨⟨items, capacity⟩, capacities⟩ =>
    if items.size = capacity then ⟨⟨items.push item, capacity + step⟩, (capacity + step) :: capacities⟩
    else ⟨⟨items.push item, capacity⟩, capacities⟩

/-- Adds items one after the other. The second part holds the capacities grown to, in order. -/
def extend (step : Nat) (buffer : Buffer α) (items : List α) : Buffer α × List Nat :=
  let grown := items.foldl (Grown.push step) ⟨buffer, []⟩
  (grown.buffer, grown.capacities.reverse)

end Buffer

/-- The room a line buffer starts with and grows by, in bytes. -/
def lineStep : Nat := 1024

/-- The room a list of words starts with and grows by, in words. -/
def wordStep : Nat := 64

end LineShell
