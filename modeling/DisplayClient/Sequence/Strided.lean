import DisplayClient.ObjectType.Basic
import DisplayClient.Scalar.Format
import DisplayClient.Sequence.Basic

/-!
# Sequences of items of one size

The items lie side by side, one every `stride` bytes. Whether all of them lie
inside the parent is settled before the first is decoded; the items are then
decoded in order, and the first that fails fails the sequence.
-/

namespace DisplayClient.Sequence

variable {α : Type}

/-- How many bytes `count` items of `stride` bytes take, if they lie inside the parent. -/
def extent (parent : View) (offset count stride : Nat) : Except Fault Nat :=
  match Size.mul? count stride with
  | none => .error (parent.rangeFault offset Size.max)
  | some total =>
    match Size.add? offset total with
    | none => .error (parent.rangeFault offset total)
    | some stop => if stop ≤ parent.length then .ok total else .error (parent.rangeFault offset total)

/-- Decodes `count` items, the first at `offset` and the others one stride further each. -/
def readEach (read : Nat → Except Fault α) (stride : Nat) : Nat → Nat → Except Fault (List α)
  | 0, _ => .ok []
  | count + 1, offset => do
    let item ← read offset
    let items ← readEach read stride count (offset + stride)
    return item :: items

/-- Decodes `count` items of `stride` bytes from `offset` on, each by its offset. -/
def strided (parent : View) (offset count stride : Nat) (read : Nat → Except Fault α) :
    Except Fault (Sequence α) := do
  let total ← extent parent offset count stride
  let items ← readEach read stride count offset
  let view ← parent.cut offset total
  return ⟨view, items⟩

/-- The bytes of the number of `width` bytes at `offset`. -/
def scalarBytes (parent : View) (width offset : Nat) : List UInt8 :=
  (parent.bytes.drop offset).take width

/-- Decodes `count` numbers from `offset` on. -/
def scalars (α : Type) [Scalar α] (parent : View) (offset count : Nat) :
    Except Fault (Sequence α) :=
  strided parent offset count (Scalar.width α) fun start =>
    .ok (Scalar.read (scalarBytes parent (Scalar.width α) start))

/-- Decodes `count` numbers from `offset` on, of the type that a character names. -/
def formatted (parent : View) (offset count : Nat) (c : Char) :
    Except Fault (Sequence ScalarValue) := do
  let format ← ScalarFormat.ofChar c
  strided parent offset count format.width fun start =>
    .ok (format.read (scalarBytes parent format.width start))

/-- Decodes `count` objects from `offset` on, each from a window of `size` bytes. -/
def objects (type : ObjectType α) (parent : View) (offset count size : Nat) :
    Except Fault (Sequence α) :=
  strided parent offset count size fun start => do type.fromView (← parent.cut start size)

end DisplayClient.Sequence
