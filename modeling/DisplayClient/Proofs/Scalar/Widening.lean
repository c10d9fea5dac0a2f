import DisplayClient.Sequence.Strided
import Mathlib.Data.List.Forall2

/-!
# Numbers by character and by type

A format says how wide a number is and how it is read, and so does a type of
numbers. Where the two agree (`ScalarFormat.Reads`), numbers decoded by the
format are the numbers decoded by the type, each widened to a value, and there
is no other difference, neither in the view nor in the fault
(`formatted_eq_map`). Each of the ten format characters agrees with a type,
and widening keeps the integer; any other character is refused before anything
else is looked at (`formatted_agrees`).
-/

namespace DisplayClient

open Sequence (formatted scalars)

variable {α β : Type}

/-! ## Decoding, and then a function -/

namespace Sequence

/-- The same sequence with `f` of its items. -/
def map (f : α → β) (s : Sequence α) : Sequence β := ⟨s.view, s.items.map f⟩

theorem readEach_map (f : α → β) (read : Nat → Except Fault α) (stride count start : Nat) :
    readEach (fun pos => (read pos).map f) stride count start =
      (readEach read stride count start).map (List.map f) := by
  induction count generalizing start with
  | zero => rfl
  | succ count ih =>
    rw [readEach, readEach, ih]
    cases read start with
    | error fault => rfl
    | ok item => cases readEach read stride count (start + stride) <;> rfl

theorem strided_map (f : α → β) (parent : View) (offset count stride : Nat)
    (read : Nat → Except Fault α) :
    strided parent offset count stride (fun pos => (read pos).map f) =
      (strided parent offset count stride read).map (map f) := by
  rw [strided, strided]
  cases extent parent offset count stride with
  | error fault => rfl
  | ok total =>
    simp only [bind, Except.bind, readEach_map]
    cases readEach read stride count offset with
    | error fault => rfl
    | ok items => cases parent.cut offset total <;> rfl

end Sequence

/-! ## Values -/

namespace ScalarValue

/-- The value is the signed integer `n`. -/
def IsSigned (value : ScalarValue) (n : Int) : Prop := ∃ m : Int64, value = .int m ∧ m.toInt = n

/-- The value is the unsigned integer `n`. -/
def IsUnsigned (value : ScalarValue) (n : Nat) : Prop :=
  ∃ m : UInt64, value = .uint m ∧ m.toNat = n

end ScalarValue

namespace ScalarFormat

/-- The format reads what the type `α` does, and widens it. -/
structure Reads (format : ScalarFormat) (α : Type) [Scalar α] (widen : α → ScalarValue) : Prop where
  width_eq : format.width = Scalar.width α
  read_eq (bs : List UInt8) : format.read bs = widen (Scalar.read bs)

variable [Scalar α] {format : ScalarFormat} {widen : α → ScalarValue} {c : Char}

theorem formatted_eq_map (hc : ofChar c = .ok format) (h : format.Reads α widen) (parent : View)
    (offset count : Nat) :
    formatted parent offset count c = (scalars α parent offset count).map (.map widen) := by
  rw [formatted, hc, scalars, ← Sequence.strided_map, ← h.width_eq]
  simp only [bind, Except.bind, h.read_eq, Except.map]

/-- The character `c` names the type `α`: wherever either of them decodes numbers, both do, with the
same view, and each number of the one is the value of the other that `same` says; and wherever
either of them fails, both do, with the same fault. -/
structure Agrees (c : Char) (α : Type) [Scalar α] (same : α → ScalarValue → Prop) : Prop where
  ok_iff (parent : View) (offset count : Nat) :
    (∃ s, formatted parent offset count c = .ok s) ↔ ∃ t, scalars α parent offset count = .ok t
  error_iff (parent : View) (offset count : Nat) (fault : Fault) :
    formatted parent offset count c = .error fault ↔ scalars α parent offset count = .error fault
  of_ok {parent : View} {offset count : Nat} {s : Sequence ScalarValue} {t : Sequence α} :
    formatted parent offset count c = .ok s → scalars α parent offset count = .ok t →
    s.view = t.view ∧ List.Forall₂ same t.items s.items

theorem agrees_of_reads {same : α → ScalarValue → Prop} (hc : ofChar c = .ok format)
    (h : format.Reads α widen) (hsame : ∀ x, same x (widen x)) : Agrees c α same where
  ok_iff parent offset count := by
    rw [formatted_eq_map hc h]
    cases scalars α parent offset count <;> simp [Except.map]
  error_iff parent offset count fault := by
    rw [formatted_eq_map hc h]
    cases scalars α parent offset count <;> simp [Except.map]
  of_ok {parent offset count s t} hs ht := by
    rw [formatted_eq_map hc h, ht] at hs
    cases hs
    refine ⟨rfl, ?_⟩
    rw [Sequence.map, List.forall₂_map_right_iff, List.forall₂_same]
    exact fun x _ => hsame x

theorem agrees_of_signed {extend : α → Int64} {toInt : α → Int} (hc : ofChar c = .ok format)
    (h : format.Reads α fun x => .int (extend x))
    (hkeep : ∀ x, (extend x).toInt = toInt x) :
    Agrees c α fun x value => value.IsSigned (toInt x) :=
  agrees_of_reads hc h fun x => ⟨extend x, rfl, hkeep x⟩

theorem agrees_of_unsigned {extend : α → UInt64} {toNat : α → Nat} (hc : ofChar c = .ok format)
    (h : format.Reads α fun x => .uint (extend x))
    (hkeep : ∀ x, (extend x).toNat = toNat x) :
    Agrees c α fun x value => value.IsUnsigned (toNat x) :=
  agrees_of_reads hc h fun x => ⟨extend x, rfl, hkeep x⟩

/-- The format characters. -/
def characters : List Char := ['b', 'B', 'h', 'H', 'i', 'I', 'L', 'K', 'f', 'd']

theorem ofChar_of_not_mem (hc : c ∉ characters) : ofChar c = .error (.invalidFormat c) := by
  unfold ofChar
  split <;> simp_all [characters]

/-- Numbers decoded by a format character are those decoded by the type that it names, and fail
where those do: the same signed integers for the signed types, the same unsigned integers for the
unsigned ones, and the numbers themselves for the others. A character that names no type is refused,
whatever the bounds are. -/
theorem formatted_agrees :
    Agrees 'b' Int8 (fun x value => value.IsSigned x.toInt) ∧
    Agrees 'B' UInt8 (fun x value => value.IsUnsigned x.toNat) ∧
    Agrees 'h' Int16 (fun x value => value.IsSigned x.toInt) ∧
    Agrees 'H' UInt16 (fun x value => value.IsUnsigned x.toNat) ∧
    Agrees 'i' Int32 (fun x value => value.IsSigned x.toInt) ∧
    Agrees 'I' UInt32 (fun x value => value.IsUnsigned x.toNat) ∧
    Agrees 'L' Int64 (fun x value => value.IsSigned x.toInt) ∧
    Agrees 'K' UInt64 (fun x value => value.IsUnsigned x.toNat) ∧
    Agrees 'f' Float32 (fun x value => value = .float x.toFloat) ∧
    Agrees 'd' Float (fun x value => value = .float x) ∧
    ∀ c ∉ characters, ∀ parent offset count,
      formatted parent offset count c = .error (.invalidFormat c) := by
  refine ⟨?int8, ?uint8, ?int16, ?uint16, ?int32, ?uint32, ?int64, ?uint64, ?float32, ?float64, ?_⟩
  case int8 => exact agrees_of_signed rfl ⟨rfl, fun _ => rfl⟩ Int8.toInt_toInt64
  case uint8 => exact agrees_of_unsigned rfl ⟨rfl, fun _ => rfl⟩ UInt8.toNat_toUInt64
  case int16 => exact agrees_of_signed rfl ⟨rfl, fun _ => rfl⟩ Int16.toInt_toInt64
  case uint16 => exact agrees_of_unsigned rfl ⟨rfl, fun _ => rfl⟩ UInt16.toNat_toUInt64
  case int32 => exact agrees_of_signed rfl ⟨rfl, fun _ => rfl⟩ Int32.toInt_toInt64
  case uint32 => exact agrees_of_unsigned rfl ⟨rfl, fun _ => rfl⟩ UInt32.toNat_toUInt64
  case int64 => exact agrees_of_signed rfl ⟨rfl, fun _ => rfl⟩ fun _ => rfl
  case uint64 => exact agrees_of_unsigned rfl ⟨rfl, fun _ => rfl⟩ fun _ => rfl
  case float32 => exact agrees_of_reads rfl ⟨rfl, fun _ => rfl⟩ fun _ => rfl
  case float64 => exact agrees_of_reads rfl ⟨rfl, fun _ => rfl⟩ fun _ => rfl
  intro c hc parent offset count
  rw [formatted, ofChar_of_not_mem hc]
  rfl

/-- Two negative numbers of two bytes keep their sign in eight. A character that is no format
character is refused past the end of the parent, too. -/
theorem formatted_agrees_of_negative :
    let parent := View.root ⟨[0xfe, 0xff, 0x80, 0xff], by decide⟩
    (∃ s, formatted parent 0 2 'h' = .ok s ∧
      List.Forall₂ (fun (x : Int16) value => value.IsSigned x.toInt) [-2, -128] s.items) ∧
    'z' ∉ characters ∧ formatted parent 9 Size.max 'z' = .error (.invalidFormat 'z') := by
  intro parent
  obtain ⟨-, -, hint16, -, -, -, -, -, -, -, hother⟩ := formatted_agrees
  obtain ⟨t, ht, htitems⟩ : ∃ t, scalars Int16 parent 0 2 = .ok t ∧ t.items = [-2, -128] :=
    ⟨_, rfl, by decide⟩
  obtain ⟨s, hs⟩ := (hint16.ok_iff parent 0 2).mpr ⟨t, ht⟩
  obtain ⟨-, hitems⟩ := hint16.of_ok hs ht
  rw [htitems] at hitems
  exact ⟨⟨s, hs, hitems⟩, by decide, hother 'z' (by decide) parent 9 Size.max⟩

end ScalarFormat

end DisplayClient
