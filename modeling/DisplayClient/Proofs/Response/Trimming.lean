import DisplayClient.Proofs.Memory.Cutting
import DisplayClient.Proofs.Memory.LittleEndian
import DisplayClient.Proofs.Response.Classified

/-!
# The size that a reply declares

The length field of a reply counts the four-byte units after its header
(`Buffer.declaredLength`), so that it declares how long the reply is, which is
never too long for a size (`Reply.size_of_length`). Trimming gives the part of
the declared size if there is one, and a range fault if the field or the part
is not there (`Reply.trim_of_headless`, `trim_of_partial`, `trim_of_whole`).
Bytes after that part make no difference (`Trimmed.bytes_congr`,
`Trimmed.congr`), and the part is decoded as a reply of that size
(`ofView_of_trimmed`).
-/

namespace DisplayClient

namespace Buffer

/-- How many four-byte units the length field counts. -/
def declaredLength (raw : Buffer) : Nat :=
  LittleEndian.value ((raw.bytes.drop Reply.lengthOffset).take 4)

/-- How long a reply is that came in the buffer, by its length field. -/
def declaredSize (raw : Buffer) : Nat := replyHeaderSize + 4 * raw.declaredLength

theorem declaredLength_lt (raw : Buffer) : raw.declaredLength < 2 ^ 32 := by
  have hwidth : ((raw.bytes.drop Reply.lengthOffset).take 4).length ≤ 4 := List.length_take_le 4 _
  calc raw.declaredLength
    _ < 256 ^ ((raw.bytes.drop Reply.lengthOffset).take 4).length := LittleEndian.value_lt _
    _ ≤ 256 ^ 4 := Nat.pow_le_pow_right (by decide) hwidth

theorem header_le_declaredSize (raw : Buffer) : replyHeaderSize ≤ raw.declaredSize :=
  Nat.le_add_right _ _

/-- The length field lies within the header, and so within every declared size. -/
theorem declaredLength_congr {raw raw' : Buffer} {size : Nat} (hsize : replyHeaderSize ≤ size)
    (h : raw'.bytes.take size = raw.bytes.take size) :
    raw'.declaredLength = raw.declaredLength := by
  have hfield (buffer : Buffer) :
      (buffer.bytes.drop Reply.lengthOffset).take 4 =
        ((buffer.bytes.take size).drop Reply.lengthOffset).take 4 := by
    have hwidth : 4 ≤ size - Reply.lengthOffset := by
      simp only [replyHeaderSize, Reply.lengthOffset] at hsize ⊢
      omega
    rw [List.drop_take, List.take_take, Nat.min_eq_left hwidth]
  rw [declaredLength, declaredLength, hfield raw, hfield raw', h]

theorem declaredSize_congr {raw raw' : Buffer} {size : Nat} (hsize : replyHeaderSize ≤ size)
    (h : raw'.bytes.take size = raw.bytes.take size) : raw'.declaredSize = raw.declaredSize := by
  rw [declaredSize, declaredSize, declaredLength_congr hsize h]

end Buffer

theorem View.uint32At_of_le {v : View} {offset : Nat} (h : offset + 4 ≤ v.length) :
    v.uint32At offset =
      .ok (UInt32.ofNat (LittleEndian.value ((v.bytes.drop offset).take 4))) := by
  rw [uint32At, numberAt_of_le h]
  rfl

theorem View.uint32At_of_lt {v : View} {offset : Nat} (h : v.length < offset + 4) :
    v.uint32At offset = .error (.range offset 4 v.length) := by
  rw [uint32At, numberAt_of_lt h]
  rfl

namespace Reply

variable {v w : View}

/-- The length that is read is the one that the field counts. -/
theorem length_read (h : lengthOffset + 4 ≤ v.length) :
    ∃ length, v.uint32At lengthOffset = .ok length ∧ length.toNat = v.declaredLength := by
  refine ⟨_, View.uint32At_of_le h, ?_⟩
  rw [UInt32.toNat_ofNat']
  exact Nat.mod_eq_of_lt v.declaredLength_lt

/-- A length of 32 bits is too small to overflow a size. -/
theorem size_of_length (length : UInt32) :
    (Size.mul? length.toNat 4).bind (Size.add? · replyHeaderSize) =
      some (replyHeaderSize + 4 * length.toNat) := by
  have hlength : length.toNat < 2 ^ 32 := length.toNat_lt
  have hlimit : sizeLimit = 2 ^ 64 := rfl
  rw [Option.bind_eq_some_iff]
  simp only [Size.mul?_eq_some_iff, Size.add?_eq_some_iff, replyHeaderSize]
  exact ⟨_, ⟨by omega, rfl⟩, by omega, by omega⟩

/-- What trimming comes to once the length is read. -/
theorem trim_of_readable (h : lengthOffset + 4 ≤ v.length) :
    trim v = if v.declaredSize = v.length then .ok v else v.cut 0 v.declaredSize := by
  obtain ⟨length, hread, hlength⟩ := length_read h
  rw [trim, hread, Buffer.declaredSize, ← hlength]
  simp only [bind, Except.bind, size_of_length]

/-- The length field is not there. -/
theorem trim_of_headless (h : v.length < lengthOffset + 4) :
    trim v = .error (.range lengthOffset 4 v.length) := by
  rw [trim, View.uint32At_of_lt h]
  rfl

/-- The reply is not there as a whole. -/
theorem trim_of_partial (hlength : lengthOffset + 4 ≤ v.length)
    (h : v.length < v.declaredSize) :
    trim v = .error (.range 0 v.declaredSize v.length) := by
  rw [trim_of_readable hlength, if_neg (Nat.ne_of_gt h), View.cut_eq, Nat.zero_add,
    if_neg (Nat.not_le.mpr h)]

/-- The view is `v` as far as its declared size: `v` itself if it ends there. -/
structure Trimmed (v w : View) : Prop where
  bytes_eq : w.bytes = v.bytes.take v.declaredSize
  origin_eq : w.origin = if v.length = v.declaredSize then v.origin else .cut 0

theorem lengthOffset_le_of_whole (h : v.declaredSize ≤ v.length) : lengthOffset + 4 ≤ v.length := by
  have hheader := v.header_le_declaredSize
  simp only [replyHeaderSize, lengthOffset] at hheader ⊢
  omega

theorem trim_of_whole (h : v.declaredSize ≤ v.length) : ∃ w, trim v = .ok w ∧ Trimmed v w := by
  rw [trim_of_readable (lengthOffset_le_of_whole h)]
  by_cases hexact : v.declaredSize = v.length
  · rw [if_pos hexact]
    refine ⟨v, rfl, ?_, ?_⟩
    · rw [hexact, List.take_length]
    · rw [if_pos hexact.symm]
  · have hroom : 0 + v.declaredSize ≤ v.length := by rwa [Nat.zero_add]
    obtain ⟨w, hcut, hbytes, horigin⟩ := View.exists_cut hroom
    rw [if_neg hexact]
    refine ⟨w, hcut, ?_, ?_⟩
    · rw [hbytes, List.drop_zero]
    · rw [horigin, if_neg (Ne.symm hexact)]

section

variable {v' w' : View} (h : Trimmed v w)

include h

theorem Trimmed.length_eq (hwhole : v.declaredSize ≤ v.length) : w.length = v.declaredSize := by
  simp only [Buffer.length, h.bytes_eq, List.length_take, Nat.min_eq_left hwhole]

theorem Trimmed.declaredLength_eq : w.declaredLength = v.declaredLength := by
  apply Buffer.declaredLength_congr v.header_le_declaredSize
  rw [h.bytes_eq, List.take_take, Nat.min_self]

theorem Trimmed.declaredSize_eq : w.declaredSize = v.declaredSize := by
  rw [Buffer.declaredSize, Buffer.declaredSize, h.declaredLength_eq]

/-- Views with the same bytes up to the declared size are trimmed to the same bytes. -/
theorem Trimmed.bytes_congr (h' : Trimmed v' w')
    (hsame : v'.bytes.take v.declaredSize = v.bytes.take v.declaredSize) : w'.bytes = w.bytes := by
  rw [h'.bytes_eq, h.bytes_eq, Buffer.declaredSize_congr v.header_le_declaredSize hsame, hsame]

/-- They are trimmed to the same view if both or neither of them end there. -/
theorem Trimmed.congr (h' : Trimmed v' w')
    (hsame : v'.bytes.take v.declaredSize = v.bytes.take v.declaredSize)
    (horigin : v'.origin = v.origin)
    (hend : v'.length = v.declaredSize ↔ v.length = v.declaredSize) : w' = w := by
  apply View.eq_of_bytes_eq (h.bytes_congr h' hsame)
  rw [h'.origin_eq, h.origin_eq, Buffer.declaredSize_congr v.header_le_declaredSize hsame, horigin]
  simp only [hend]

/-- A trimmed view is decoded as the reply that it holds. -/
theorem ofView_of_trimmed (hwhole : v.declaredSize ≤ v.length) :
    ∃ r, ofView w = .ok r ∧ r.view = w ∧ r.length.toNat = v.declaredLength := by
  have hsize : w.declaredSize ≤ w.length := by
    rw [h.declaredSize_eq, h.length_eq hwhole]
  have hheader : replyHeaderSize ≤ w.length := Nat.le_trans w.header_le_declaredSize hsize
  have hresponse : responseHeaderSize ≤ w.length := Nat.le_trans (by decide) hheader
  obtain ⟨length, hread, hlength⟩ := length_read (lengthOffset_le_of_whole hsize)
  refine ⟨⟨⟨w, hresponse⟩, length⟩, ?_, rfl, ?_⟩
  · rw [ofView, if_neg (Nat.not_lt.mpr hheader), hread, Response.ofView_of_le hresponse]
    rfl
  · rw [← h.declaredLength_eq]
    exact hlength

end

end Reply

end DisplayClient
