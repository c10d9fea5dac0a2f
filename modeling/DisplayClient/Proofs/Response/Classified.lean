import DisplayClient.Response.Decode
import Mathlib.Data.Nat.Bitwise

/-!
# What a response says of itself

The fields of a response's header are its first four bytes
(`Response.kind_of_bytes`, `Response.detail_of_bytes`,
`Response.sequence_toNat_of_bytes`), and the highest bit of an event's kind is
no part of its opcode (`Event.opcode_toNat`, `Event.isSynthetic_iff`). A
classified event or error answers every question about its type by one type,
the registered one or that of any event or error (`Event.answersAs`,
`ServerError.answersAs`).
-/

namespace DisplayClient

namespace Response

variable {r : Response} {kind detail low high : UInt8} {body : List UInt8}

theorem ofView_of_le {v : View} (h : responseHeaderSize ≤ v.length) :
    ofView v = .ok ⟨v, h⟩ := dif_pos h

theorem ofView_of_lt {v : View} (h : v.length < responseHeaderSize) :
    ofView v = .error (.range 0 responseHeaderSize v.length) := dif_neg (Nat.not_le.mpr h)

theorem exists_bytes (r : Response) : ∃ (kind detail low high : UInt8) (body : List UInt8),
    r.view.bytes = kind :: detail :: low :: high :: body := by
  have hle := r.header_le
  match hbytes : r.view.bytes with
  | kind :: detail :: low :: high :: body => exact ⟨kind, detail, low, high, body, rfl⟩
  | [] | [_] | [_, _] | [_, _, _] => simp [Buffer.length, responseHeaderSize, hbytes] at hle

theorem byte_of_bytes (h : r.view.bytes = kind :: detail :: low :: high :: body)
    (i : Fin responseHeaderSize) : r.byte i = [kind, detail, low, high].get i := by
  have hget : r.view.bytes[i.val]? = (kind :: detail :: low :: high :: body)[i.val]? := by rw [h]
  rw [List.getElem?_eq_getElem (Nat.lt_of_lt_of_le i.isLt r.header_le)] at hget
  match i with
  | 0 | 1 | 2 | 3 => exact Option.some.inj hget

theorem kind_of_bytes (h : r.view.bytes = kind :: detail :: low :: high :: body) :
    r.kind = kind := byte_of_bytes h 0

theorem detail_of_bytes (h : r.view.bytes = kind :: detail :: low :: high :: body) :
    r.detail = detail := byte_of_bytes h 1

theorem sequence_toNat_of_bytes (h : r.view.bytes = kind :: detail :: low :: high :: body) :
    r.sequence.toNat = low.toNat + 256 * high.toNat := by
  have hlow : r.byte 2 = low := byte_of_bytes h 2
  have hhigh : r.byte 3 = high := byte_of_bytes h 3
  have hl := low.toNat_lt
  have hh := high.toNat_lt
  rw [sequence, hlow, hhigh, UInt16.toNat_ofNat']
  simp only [LittleEndian.value]
  omega

end Response

/-- The opcode is the kind without its highest bit. -/
theorem Event.opcode_toNat (e : Event) : e.opcode.toNat = e.kind.toNat % 128 := by
  have hmask : (~~~syntheticBit).toNat = 2 ^ 7 - 1 := by decide
  rw [opcode, UInt8.toNat_and, hmask, Nat.and_two_pow_sub_one_eq_mod]

/-- The highest bit says that a client sent the event. -/
theorem Event.isSynthetic_iff (e : Event) : e.isSynthetic = true ↔ 128 ≤ e.kind.toNat := by
  have hmask : syntheticBit.toNat = 2 ^ 7 := by decide
  have hbit : e.kind.toNat.testBit 7 = decide (128 ≤ e.kind.toNat) := by
    have hlt := e.kind.toNat_lt
    rw [Nat.testBit_eq_decide_div_mod_eq, decide_eq_decide]
    omega
  rw [isSynthetic, bne_iff_ne, ne_eq, ← UInt8.toNat_inj, UInt8.toNat_and, hmask,
    Nat.and_two_pow, hbit]
  by_cases h : 128 ≤ e.kind.toNat <;> simp [h]

/-- What is asked about a type is answered for `tag`, of an object with the bytes of `view`. -/
structure AnswersAs (tag : TypeTag) (view : View) (is : TypeTag → Bool) (name : String)
    (cast : {α : Type} → ObjectType α → Except Fault α) : Prop where
  is_iff (tag' : TypeTag) : is tag' = true ↔ tag' = tag
  name_eq : name = tag.name
  cast_of_eq {α : Type} {type : ObjectType α} : type.tag = tag → cast type = type.fromView view
  cast_of_ne {α : Type} {type : ObjectType α} : type.tag ≠ tag →
    cast type = .error (.typeMismatch type.tag tag)

theorem Event.answersAs (e : Event) : AnswersAs e.type e.view e.is e.name e.cast where
  is_iff tag := by rw [is, beq_iff_eq, eq_comm]
  name_eq := rfl
  cast_of_eq h := if_pos h.symm
  cast_of_ne h := if_neg (Ne.symm h)

theorem ServerError.answersAs (e : ServerError) :
    AnswersAs e.type e.view e.is e.name e.cast where
  is_iff tag := by rw [is, beq_iff_eq, eq_comm]
  name_eq := rfl
  cast_of_eq h := if_pos h.symm
  cast_of_ne h := if_neg (Ne.symm h)

end DisplayClient
