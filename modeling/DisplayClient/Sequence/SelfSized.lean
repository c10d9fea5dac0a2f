import DisplayClient.ObjectType.Basic
import DisplayClient.Sequence.Basic

/-!
# Sequences of objects that tell their own size

Each object is decoded from all that is left of the parent, and the next one
starts where its size says that it ends. Nothing is settled beforehand: how
long the sequence is shows after the last object.
-/

namespace DisplayClient.Sequence

variable {α : Type}

/-- Where the object after `item` starts, if `item` starts at `cursor`. -/
def advance (type : ObjectType α) (parent : View) (cursor : Nat) (item : α) : Except Fault Nat :=
  match Size.add? cursor (type.size item) with
  | some next => .ok next
  | none => .error (parent.rangeFault cursor (type.size item))

/-- Decodes `count` objects from `cursor` on, and tells where the last one ends. -/
def selfSizedFrom (type : ObjectType α) (parent : View) :
    Nat → Nat → Except Fault (List α × Nat)
  | 0, cursor => .ok ([], cursor)
  | count + 1, cursor => do
    let rest ← parent.cutFrom cursor
    let item ← type.fromView rest
    let next ← advance type parent cursor item
    let (items, stop) ← selfSizedFrom type parent count next
    return (item :: items, stop)

/-- Decodes `count` objects from `offset` on. -/
def selfSized (type : ObjectType α) (parent : View) (offset count : Nat) :
    Except Fault (Sequence α) := do
  let (items, stop) ← selfSizedFrom type parent count offset
  let view ← parent.cut offset (stop - offset)
  return ⟨view, items⟩

end DisplayClient.Sequence
