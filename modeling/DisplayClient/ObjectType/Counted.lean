import DisplayClient.Sequence.SelfSized

/-!
# Objects that begin with a count

Layouts that protocols build their variable parts from: strings after their
length, and records of strings after their number.
-/

namespace DisplayClient.ObjectType

/-- A byte `n` and `n` bytes. -/
def countedString : ObjectType View :=
  keeping (.named "Str") fun v => do
    let n ← v.uint8At 0
    v.cut 0 (1 + n.toNat)

/-- The least multiple of 4 that is not below `n`. -/
def roundUpToFour (n : Nat) : Nat := (n + 3) / 4 * 4

/-- A two-byte number `n` and `n` bytes, filled up to a multiple of four. -/
def paddedString : ObjectType View :=
  keeping (.named "Str16") fun v => do
    let n ← v.uint16At 0
    v.cut 0 (roundUpToFour (2 + n.toNat))

/-- A four-byte number `n` and `n` counted strings. -/
def stringRecord : ObjectType View :=
  keeping (.named "Rec") fun v => do
    let n ← v.uint32At 0
    let strings ← Sequence.selfSized countedString v 4 n.toNat
    v.cut 0 (strings.view.offset + strings.view.length)

end DisplayClient.ObjectType
