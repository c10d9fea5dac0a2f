import DisplayClient.Proofs.Memory.Bytewise
import DisplayClient.Proofs.Response.Trimming
import DisplayClient.Proofs.Sequence.Windows

/-!
# A number read in different ways

A number can be read by itself, as an item of a sequence, byte by byte, or as
a field of a response, and each way keeps to bounds of its own. They come to
the same. A sequence of numbers fails exactly if one of them cannot be read by
itself (`Scalar.ReadBy.readsAlike`). There always is one that starts inside
the view (`Scalar.exists_missing`), so that no offset has to be looked at that
is too large for a size. The fields of a response are numbers at fixed offsets
of its view (`Response.uint16At_view`, `Reply.parts_of_ofView`). Together with
the bytes of numbers, this is `Scalar.readings_agree`.
-/

namespace DisplayClient

open Sequence (scalars scalarBytes outside Strided)

/-! ## One by one and as a sequence -/

namespace Scalar

variable {α : Type} [Scalar α] {read : View → Nat → Except Fault α}

/-- Numbers of the type, of `width` bytes, are read from their bytes if all of these lie inside the
view. -/
structure ReadBy (α : Type) [Scalar α] (width : Nat) (read : View → Nat → Except Fault α) :
    Prop where
  width_eq : Scalar.width α = width
  of_inside {v : View} {offset : Nat} : offset + width ≤ v.length →
    read v offset = .ok (Scalar.read (scalarBytes v width offset))
  of_outside {v : View} {offset : Nat} : v.length < offset + width →
    read v offset = .error (.range offset width v.length)

/-- Numbers decoded as a sequence are those that are read one by one. -/
structure ReadsAlike (α : Type) [Scalar α] (width : Nat) (read : View → Nat → Except Fault α) :
    Prop where
  width_eq : Scalar.width α = width
  exists_ok_iff (v : View) (offset count : Nat) : (∃ s, scalars α v offset count = .ok s) ↔
    offset ≤ v.length ∧ ∀ i < count, ∃ x, read v (offset + i * width) = .ok x
  items_read {v : View} {offset count : Nat} {s : Sequence α} :
    scalars α v offset count = .ok s → s.items.length = count ∧
      ∀ i x, s.items[i]? = some x → read v (offset + i * width) = .ok x
  /-- Of the numbers that cannot be read, one starts inside the view. -/
  exists_unread {v : View} {offset count : Nat} {fault : Fault} :
    scalars α v offset count = .error fault → offset ≤ v.length →
      ∃ i < count, offset + i * width ≤ v.length ∧
        read v (offset + i * width) = .error (.range (offset + i * width) width v.length)
  single_error_iff (v : View) (offset : Nat) (fault : Fault) :
    scalars α v offset 1 = .error fault ↔ read v offset = .error fault
  fault_eq {v : View} {offset : Nat} {fault : Fault} :
    read v offset = .error fault → fault = .range offset width v.length

/-- Of items that do not all lie inside so many bytes, one starts inside and ends outside. -/
theorem exists_missing {available offset count width : Nat} (hwidth : 0 < width)
    (hoffset : offset ≤ available) (hmiss : available < offset + count * width) :
    ∃ i < count, offset + i * width ≤ available ∧ available < offset + i * width + width := by
  have hroom : available - offset < count * width := by omega
  -- It comes after as many items as there is room for.
  let i := (available - offset) / width
  have hi : i < count := Nat.div_lt_of_lt_mul (by rwa [Nat.mul_comm])
  have hstart : i * width ≤ available - offset := Nat.div_mul_le_self _ _
  have hstop : available - offset < i * width + width := Nat.lt_div_mul_add hwidth
  exact ⟨i, hi, by omega, by omega⟩

section

variable {width : Nat} (h : ReadBy α width read) {v : View} {offset count : Nat} {fault : Fault}

include h

theorem ReadBy.exists_ok_iff : (∃ x, read v offset = .ok x) ↔ offset + width ≤ v.length := by
  by_cases hinside : offset + width ≤ v.length
  · simp [h.of_inside hinside, hinside]
  · simp [h.of_outside (Nat.lt_of_not_le hinside), hinside]

theorem ReadBy.eq_error_iff : read v offset = .error fault ↔
    v.length < offset + width ∧ fault = .range offset width v.length := by
  by_cases hinside : offset + width ≤ v.length
  · simp [h.of_inside hinside, Nat.not_lt.mpr hinside]
  · have houtside : v.length < offset + width := Nat.lt_of_not_le hinside
    simp [h.of_outside houtside, houtside, eq_comm]

theorem ReadBy.scalars_strided :
    Strided v offset count width (fun w => .ok (Scalar.read w.bytes)) (scalars α v offset count) :=
  h.width_eq ▸ Sequence.scalars_strided v offset count α

theorem ReadBy.scalars_eq_error_iff : scalars α v offset count = .error fault ↔
    v.length < offset + count * width ∧ fault = outside v offset count width := by
  by_cases hfits : offset + count * width ≤ v.length
  · obtain ⟨s, hs⟩ := h.scalars_strided.exists_ok_iff.mpr hfits
    simp [hs, Nat.not_lt.mpr hfits]
  · simp [h.scalars_strided.of_outside hfits, Nat.lt_of_not_le hfits, eq_comm]

/-- An item and the number that is read at its place come from the same bytes. -/
theorem ReadBy.items_read {s : Sequence α} (hs : scalars α v offset count = .ok s) :
    s.items.length = count ∧
      ∀ i x, s.items[i]? = some x → read v (offset + i * width) = .ok x := by
  have hwindowed := h.scalars_strided.eq_ok_iff.mp hs
  refine ⟨hwindowed.length_eq, fun i x hi => ?_⟩
  obtain ⟨w, hw, hx⟩ := hwindowed.decoded hi
  rw [h.of_inside (View.cut_eq_ok_iff.mp hw).1, Sequence.scalarBytes_of_cut hw, hx]

theorem ReadBy.readsAlike (hwidth : 0 < width) (hmax : width ≤ Size.max) :
    ReadsAlike α width read where
  width_eq := h.width_eq
  exists_ok_iff v offset count := by
    simp only [h.scalars_strided.exists_ok_iff, h.exists_ok_iff]
    constructor
    · intro hfits
      exact ⟨Nat.le_of_add_right_le hfits, fun i hi => Sequence.stop_le hfits hi⟩
    · rintro ⟨hoffset, hall⟩
      by_contra hmiss
      obtain ⟨i, hi, -, hstop⟩ := exists_missing hwidth hoffset (Nat.lt_of_not_le hmiss)
      exact Nat.not_le.mpr hstop (hall i hi)
  items_read := h.items_read
  exists_unread {v offset count fault} hfault hoffset := by
    have hmiss := (h.scalars_eq_error_iff.mp hfault).1
    obtain ⟨i, hi, hstart, hstop⟩ := exists_missing hwidth hoffset hmiss
    exact ⟨i, hi, hstart, h.of_outside hstop⟩
  single_error_iff v offset fault := by
    rw [h.scalars_eq_error_iff, h.eq_error_iff, outside, Nat.one_mul, Nat.min_eq_left hmax]
  fault_eq hfault := (h.eq_error_iff.mp hfault).2

end

/-- A number that the view reads, of whatever type. -/
theorem readBy_of_number {width : Nat} {ofNat : Nat → α} (hwidth : Scalar.width α = width)
    (hread : ∀ bs, (Scalar.read bs : α) = ofNat (LittleEndian.value bs)) :
    ReadBy α width fun v offset => (v.numberAt offset width).map ofNat where
  width_eq := hwidth
  of_inside hinside := by
    rw [View.numberAt_of_le hinside, hread]
    rfl
  of_outside houtside := by
    rw [View.numberAt_of_lt houtside]
    rfl

theorem readBy_uint8At : ReadBy UInt8 1 View.uint8At := by
  rw [View.uint8At_eq]
  exact readBy_of_number rfl fun _ => rfl

theorem readBy_uint16At : ReadBy UInt16 2 View.uint16At := readBy_of_number rfl fun _ => rfl

theorem readBy_uint32At : ReadBy UInt32 4 View.uint32At := readBy_of_number rfl fun _ => rfl

end Scalar

/-! ## The fields of a response -/

/-- The sequence number of a response is the number in its third and fourth byte. -/
theorem Response.uint16At_view (r : Response) : r.view.uint16At 2 = .ok r.sequence := by
  obtain ⟨kind, detail, low, high, body, hbytes⟩ := r.exists_bytes
  have hlow : r.view.uint8At 2 = .ok low := View.uint8At_eq_ok_iff.mpr (by rw [hbytes]; rfl)
  have hhigh : r.view.uint8At 3 = .ok high := View.uint8At_eq_ok_iff.mpr (by rw [hbytes]; rfl)
  exact View.uint16At_eq_ok_iff.mpr ⟨low, high, hlow, hhigh, sequence_toNat_of_bytes hbytes⟩

theorem Response.view_of_ofView {v : View} {r : Response} (h : ofView v = .ok r) : r.view = v := by
  rw [ofView] at h
  split at h <;> cases h
  rfl

/-- A reply is decoded from a response and the number in the length field. -/
theorem Reply.parts_of_ofView {v : View} {r : Reply} (h : ofView v = .ok r) :
    Response.ofView v = .ok r.response ∧ v.uint32At lengthOffset = .ok r.length := by
  rw [ofView] at h
  split at h
  · cases h
  · obtain ⟨length, hlength, hrest⟩ := bind_eq_ok_iff.mp h
    obtain ⟨response, hresponse, hr⟩ := bind_eq_ok_iff.mp hrest
    cases hr
    exact ⟨hresponse, hlength⟩

namespace ObjectType

variable {α : Type} {type : ObjectType α} {response : α → Response}

/-- Objects of the type keep the whole view that they are decoded from, and their sequence number is
the one that the view reads. -/
structure TellsSequence (type : ObjectType α) (sequence : α → UInt16) : Prop where
  view_eq {v : View} {a : α} : type.fromView v = .ok a → type.view a = v
  uint16At_eq (a : α) : (type.view a).uint16At 2 = .ok (sequence a)

/-- Objects that are a response, and more. -/
theorem tellsSequence_of_response (hview : ∀ a, type.view a = (response a).view)
    (hdecoded : ∀ {v a}, type.fromView v = .ok a → Response.ofView v = .ok (response a)) :
    type.TellsSequence fun a => (response a).sequence where
  view_eq {v a} h := by rw [hview, Response.view_of_ofView (hdecoded h)]
  uint16At_eq a := by rw [hview, Response.uint16At_view]

/-- Objects that are made from a response alone. -/
theorem response_of_map {make : Response → α} (hmake : ∀ r, response (make r) = r) {v : View}
    {a : α} (h : (Response.ofView v).map make = .ok a) : Response.ofView v = .ok (response a) := by
  cases hr : Response.ofView v with
  | error fault =>
    rw [hr] at h
    cases h
  | ok r =>
    rw [hr] at h
    cases h
    rw [hmake]

end ObjectType

namespace Scalar

open ObjectType (TellsSequence tellsSequence_of_response response_of_map)

/-- It does not matter how a number is read. A sequence of numbers is there exactly if each of them
can be read by itself, and has these as its items; if only one is asked for, both fail alike. A
number of two or four bytes can be read exactly if its bytes can, and is what they come to. Sequence
numbers and lengths of replies are what the view reads where they are. -/
theorem readings_agree :
    (ReadsAlike UInt8 1 View.uint8At ∧ ReadsAlike UInt16 2 View.uint16At ∧
      ReadsAlike UInt32 4 View.uint32At) ∧
    (∀ (v : View) (offset : Nat) (n : UInt16), v.uint16At offset = .ok n ↔
      ∃ b₀ b₁, v.uint8At offset = .ok b₀ ∧ v.uint8At (offset + 1) = .ok b₁ ∧
        n.toNat = b₀.toNat + 256 * b₁.toNat) ∧
    (∀ (v : View) (offset : Nat) (n : UInt32), v.uint32At offset = .ok n ↔
      ∃ b₀ b₁ b₂ b₃, v.uint8At offset = .ok b₀ ∧ v.uint8At (offset + 1) = .ok b₁ ∧
        v.uint8At (offset + 2) = .ok b₂ ∧ v.uint8At (offset + 3) = .ok b₃ ∧
        n.toNat = b₀.toNat + 256 * b₁.toNat + 256 ^ 2 * b₂.toNat + 256 ^ 3 * b₃.toNat) ∧
    (TellsSequence .response Response.sequence ∧ TellsSequence .event Event.sequence ∧
      TellsSequence .error ServerError.sequence ∧ TellsSequence .reply Reply.sequence) ∧
    ∀ v r, Reply.ofView v = .ok r → v.uint32At 4 = .ok r.length := by
  refine ⟨⟨?uint8, ?uint16, ?uint32⟩, fun v offset n => View.uint16At_eq_ok_iff,
    fun v offset n => View.uint32At_eq_ok_iff, ⟨?response, ?event, ?error, ?reply⟩,
    fun v r h => (Reply.parts_of_ofView h).2⟩
  case uint8 => exact readBy_uint8At.readsAlike (by decide) (by decide)
  case uint16 => exact readBy_uint16At.readsAlike (by decide) (by decide)
  case uint32 => exact readBy_uint32At.readsAlike (by decide) (by decide)
  case response => exact tellsSequence_of_response (fun _ => rfl) fun h => h
  case event => exact tellsSequence_of_response (fun _ => rfl) (response_of_map fun _ => rfl)
  case error => exact tellsSequence_of_response (fun _ => rfl) (response_of_map fun _ => rfl)
  case reply => exact tellsSequence_of_response (fun _ => rfl) fun h => (Reply.parts_of_ofView h).1

/-- A reply of 32 bytes that says that one unit follows: two numbers from an odd offset on, two of
which the second is not all there, one at the largest offset, the bytes of the length, and the
fields. -/
theorem readings_agree_of_header :
    let v := View.root ⟨[1, 24, 7, 2, 1, 0, 0, 0] ++ List.replicate 24 5, by decide⟩
    (∃ s, scalars UInt16 v 1 2 = .ok s ∧ s.items.length = 2 ∧
      ∀ i x, s.items[i]? = some x → v.uint16At (1 + i * 2) = .ok x) ∧
    (∃ i < 2, 29 + i * 2 ≤ 32 ∧ v.uint16At (29 + i * 2) = .error (.range (29 + i * 2) 2 32)) ∧
    scalars UInt32 v Size.max 1 = .error (.range Size.max 4 32) ∧
    (∃ b₀ b₁ b₂ b₃, v.uint8At 4 = .ok b₀ ∧ v.uint8At 5 = .ok b₁ ∧ v.uint8At 6 = .ok b₂ ∧
      v.uint8At 7 = .ok b₃ ∧
      1 = b₀.toNat + 256 * b₁.toNat + 256 ^ 2 * b₂.toNat + 256 ^ 3 * b₃.toNat) ∧
    ∃ r, Reply.ofView v = .ok r ∧ v.uint16At 2 = .ok r.sequence ∧ v.uint32At 4 = .ok r.length ∧
      r.sequence = 0x0207 ∧ r.length = 1 := by
  intro v
  obtain ⟨⟨-, huint16, huint32⟩, -, hbytes, ⟨-, -, -, hreply⟩, hlength⟩ := readings_agree
  refine ⟨?pair, ?unread, ?largest, ?bytes, ?fields⟩
  case pair =>
    have hreads : ∀ i < 2, ∃ x, v.uint16At (1 + i * 2) = .ok x
      | 0, _ => ⟨_, rfl⟩
      | 1, _ => ⟨_, rfl⟩
    obtain ⟨s, hs⟩ := (huint16.exists_ok_iff v 1 2).mpr ⟨by decide, hreads⟩
    exact ⟨s, hs, huint16.items_read hs⟩
  case unread =>
    have hfault : scalars UInt16 v 29 2 = .error (.range 29 4 32) := rfl
    exact huint16.exists_unread hfault (by decide)
  case largest => exact (huint32.single_error_iff v Size.max _).mpr rfl
  case bytes => exact (hbytes v 4 1).mp rfl
  case fields =>
    let r : Reply := ⟨⟨v, by decide⟩, 1⟩
    have hr : ObjectType.reply.fromView v = .ok r := rfl
    have hsequence := hreply.uint16At_eq r
    rw [hreply.view_eq hr] at hsequence
    exact ⟨r, hr, hsequence, hlength v r hr, rfl, rfl⟩

end Scalar

end DisplayClient
