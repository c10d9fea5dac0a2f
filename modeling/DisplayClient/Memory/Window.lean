import DisplayClient.Fault
import DisplayClient.Memory.LittleEndian

/-!
# Cutting and reading views

A view gives out parts of itself and reads numbers at offsets. What does not
lie inside the view is a range fault that says what was asked for and how
much there was.

* `View.cut_eq`: a part can be cut exactly if it ends inside the view;
* `View.cutFrom_eq`: the rest can be cut exactly if it starts inside.
-/

namespace DisplayClient.View

/-- The fault of asking for `length` bytes at `offset`. -/
def rangeFault (v : View) (offset length : Nat) : Fault := .range offset length v.length

/-- The bytes from `offset` on, `length` of them, if they lie inside the view. -/
def slice? (v : View) (offset length : Nat) : Option (List UInt8) := do
  let stop ← Size.add? offset length
  if stop ≤ v.length then some ((v.bytes.drop offset).take length) else none

theorem slice?_eq (v : View) (offset length : Nat) :
    v.slice? offset length =
      if offset + length ≤ v.length then some ((v.bytes.drop offset).take length) else none := by
  have hv := v.length_lt
  unfold slice?
  cases h : Size.add? offset length with
  | none =>
    have := Size.add?_eq_none_iff.mp h
    simp only [Option.bind_eq_bind, Option.bind_none]
    rw [if_neg]
    simp only [Buffer.length]
    omega
  | some stop =>
    obtain ⟨-, rfl⟩ := Size.add?_eq_some_iff.mp h
    rfl

theorem length_part_lt (v : View) (offset length : Nat) :
    ((v.bytes.drop offset).take length).length < sizeLimit := by
  have := v.length_lt
  simp only [List.length_take, List.length_drop]
  omega

/-- The part of `length` bytes from `offset` on. -/
def cut (v : View) (offset length : Nat) : Except Fault View :=
  match Size.add? offset length with
  | none => .error (v.rangeFault offset length)
  | some stop =>
    if stop ≤ v.length then
      .ok ⟨⟨(v.bytes.drop offset).take length, v.length_part_lt offset length⟩, .cut offset⟩
    else .error (v.rangeFault offset length)

theorem cut_eq (v : View) (offset length : Nat) :
    v.cut offset length =
      if offset + length ≤ v.length then
        .ok ⟨⟨(v.bytes.drop offset).take length, v.length_part_lt offset length⟩, .cut offset⟩
      else .error (.range offset length v.length) := by
  have hv := v.length_lt
  unfold cut
  cases h : Size.add? offset length with
  | none =>
    have := Size.add?_eq_none_iff.mp h
    rw [if_neg]
    · rfl
    · simp only [Buffer.length]
      omega
  | some stop =>
    obtain ⟨-, rfl⟩ := Size.add?_eq_some_iff.mp h
    rfl

/-- Everything from `offset` on. -/
def cutFrom (v : View) (offset : Nat) : Except Fault View :=
  if offset ≤ v.length then v.cut offset (v.length - offset) else .error (v.rangeFault offset 0)

theorem cutFrom_eq (v : View) (offset : Nat) :
    v.cutFrom offset =
      if offset ≤ v.length then v.cut offset (v.length - offset)
      else .error (.range offset 0 v.length) := rfl

/-- The byte at `offset`. -/
def uint8At (v : View) (offset : Nat) : Except Fault UInt8 :=
  match v.bytes[offset]? with
  | some b => .ok b
  | none => .error (v.rangeFault offset 1)

/-- The little-endian number in the `width` bytes at `offset`. -/
def numberAt (v : View) (offset width : Nat) : Except Fault Nat :=
  match v.slice? offset width with
  | some bytes => .ok (LittleEndian.value bytes)
  | none => .error (v.rangeFault offset width)

/-- The two-byte number at `offset`. -/
def uint16At (v : View) (offset : Nat) : Except Fault UInt16 :=
  (v.numberAt offset 2).map UInt16.ofNat

/-- The four-byte number at `offset`. -/
def uint32At (v : View) (offset : Nat) : Except Fault UInt32 :=
  (v.numberAt offset 4).map UInt32.ofNat

end DisplayClient.View
