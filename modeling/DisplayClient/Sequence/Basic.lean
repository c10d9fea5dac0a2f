import DisplayClient.Memory.Window

/-!
# Sequences

A sequence is a run of decoded items, together with the window of the parent
view that they came from.
-/

namespace DisplayClient

/-- Decoded items and the window that they came from. -/
structure Sequence (α : Type) where
  view : View
  items : List α

namespace Sequence

variable {α : Type}

def length (s : Sequence α) : Nat := s.items.length

def isEmpty (s : Sequence α) : Bool := s.items.isEmpty

/-- The item at `index`, counted from 0. -/
def get? (s : Sequence α) (index : Nat) : Option α := s.items[index]?

def getLast? (s : Sequence α) : Option α := s.items.getLast?

end Sequence

end DisplayClient
