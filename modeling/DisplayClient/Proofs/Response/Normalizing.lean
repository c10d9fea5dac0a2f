import DisplayClient.Proofs.Response.Trimming
import DisplayClient.Proofs.Step.Sequencing

/-!
# What is left of a reply

Trimming succeeds exactly if the reply is there as far as it declares
(`Reply.trim_eq_ok_iff`), and what is left is the start of the view
(`Trimmed.begins`), with the same header (`Response.byte_of_begins`). It
declares the size that it has, so that it is trimmed to itself
(`Trimmed.trim_eq`) and decoded (`Trimmed.decoded`). Bytes that follow the
reply are of no concern to what is left (`Trimmed.bytes_of_more`), so a
trimmed view is the normal form of all views that begin with it
(`trim_normalizes`).
-/

namespace DisplayClient

/-- Both responses say the same of what they are. -/
structure Response.SameHeader (r r' : Response) : Prop where
  kind_eq : r.kind = r'.kind
  detail_eq : r.detail = r'.detail
  sequence_eq : r.sequence = r'.sequence

namespace Response

variable {r r' : Response}

theorem byte_of_begins (h : r.view.bytes <+: r'.view.bytes) (i : Fin responseHeaderSize) :
    r.byte i = r'.byte i := by
  simp only [byte, List.get_eq_getElem]
  exact h.getElem _

theorem sameHeader_of_begins (h : r.view.bytes <+: r'.view.bytes) : r.SameHeader r' where
  kind_eq := byte_of_begins h 0
  detail_eq := byte_of_begins h 1
  sequence_eq := by rw [sequence, sequence, byte_of_begins h 2, byte_of_begins h 3]

end Response

namespace Reply

variable {v w v' w' : View} {length : UInt32}

theorem field_of_read (h : v.uint32At lengthOffset = .ok length) : lengthOffset + 4 ≤ v.length := by
  by_contra hshort
  rw [View.uint32At_of_lt (Nat.lt_of_not_le hshort)] at h
  cases h

theorem declaredLength_of_read (h : v.uint32At lengthOffset = .ok length) :
    v.declaredLength = length.toNat := by
  obtain ⟨length', hread, heq⟩ := length_read (field_of_read h)
  rw [hread] at h
  cases h
  exact heq.symm

/-- A reply can be trimmed exactly if it is there as a whole. -/
theorem trim_eq_ok_iff : trim v = .ok w ↔ v.declaredSize ≤ v.length ∧ Trimmed v w := by
  constructor
  · intro h
    by_cases hlength : lengthOffset + 4 ≤ v.length
    · by_cases hwhole : v.declaredSize ≤ v.length
      · obtain ⟨w', htrim, hw'⟩ := trim_of_whole hwhole
        rw [htrim] at h
        cases h
        exact ⟨hwhole, hw'⟩
      · rw [trim_of_partial hlength (Nat.lt_of_not_le hwhole)] at h
        cases h
    · rw [trim_of_headless (Nat.lt_of_not_le hlength)] at h
      cases h
  · rintro ⟨hwhole, hw⟩
    obtain ⟨w', htrim, hw'⟩ := trim_of_whole hwhole
    rw [htrim, hw.congr hw' rfl rfl Iff.rfl]

theorem Trimmed.begins (h : Trimmed v w) : w.bytes <+: v.bytes := by
  rw [h.bytes_eq]
  exact List.take_prefix _ _

/-- What is left is as long as it declares. -/
theorem Trimmed.trim_eq (h : Trimmed v w) (hwhole : v.declaredSize ≤ v.length) :
    trim w = .ok w := by
  have hsize : w.declaredSize = w.length := by rw [h.declaredSize_eq, h.length_eq hwhole]
  rw [trim_of_readable (lengthOffset_le_of_whole (Nat.le_of_eq hsize)), if_pos hsize]

/-- What is left is a reply with the header of the view. -/
theorem Trimmed.decoded (h : Trimmed v w) (hwhole : v.declaredSize ≤ v.length) :
    ∃ header r, Response.ofView v = .ok header ∧ ofView w = .ok r ∧ r.view = w ∧
      r.length.toNat = v.declaredLength ∧ r.response.SameHeader header := by
  have hheader : responseHeaderSize ≤ v.length :=
    Nat.le_trans (by decide) (Nat.le_trans v.header_le_declaredSize hwhole)
  obtain ⟨r, hdecoded, hview, hlength⟩ := ofView_of_trimmed h hwhole
  refine ⟨⟨v, hheader⟩, r, Response.ofView_of_le hheader, hdecoded, hview, hlength, ?_⟩
  refine Response.sameHeader_of_begins ?_
  show r.view.bytes <+: v.bytes
  rw [hview]
  exact h.begins

/-- Bytes after the view lie after its reply, too. -/
theorem Trimmed.bytes_of_more (h : Trimmed v w) (hwhole : v.declaredSize ≤ v.length)
    (hmore : v.bytes <+: v'.bytes) : ∃ w', trim v' = .ok w' ∧ w'.bytes = w.bytes := by
  have hsame : v'.bytes.take v.declaredSize = v.bytes.take v.declaredSize := by
    obtain ⟨after, hafter⟩ := hmore
    rw [← hafter, List.take_append_of_le_length hwhole]
  have hsize : v'.declaredSize = v.declaredSize :=
    Buffer.declaredSize_congr v.header_le_declaredSize hsame
  have hwhole' : v'.declaredSize ≤ v'.length := by
    rw [hsize]
    exact Nat.le_trans hwhole hmore.length_le
  obtain ⟨w', htrim, hw'⟩ := trim_of_whole hwhole'
  exact ⟨w', htrim, h.bytes_congr hw' hsame⟩

/-- `w` is what is left of `v`, whose length field holds `length`: the first bytes of the declared
size, which are a reply of that length with the header of `v`, are left as they are by trimming, and
are left of every view that begins with `v`. -/
structure LeftOf (v : View) (length : UInt32) (w : View) : Prop where
  length_eq : w.length = replyHeaderSize + 4 * length.toNat
  begins : w.bytes <+: v.bytes
  decoded : ∃ header r, Response.ofView v = .ok header ∧ ofView w = .ok r ∧ r.view = w ∧
    r.length = length ∧ r.response.SameHeader header
  trim_eq : trim w = .ok w
  trim_of_more {v' : View} : v.bytes <+: v'.bytes → ∃ w', trim v' = .ok w' ∧ w'.bytes = w.bytes

theorem Trimmed.leftOf (h : Trimmed v w) (hwhole : v.declaredSize ≤ v.length)
    (hread : v.uint32At lengthOffset = .ok length) : LeftOf v length w where
  length_eq := by rw [h.length_eq hwhole, Buffer.declaredSize, declaredLength_of_read hread]
  begins := h.begins
  decoded := by
    obtain ⟨header, r, hheader, hdecoded, hview, hlength, hsame⟩ := h.decoded hwhole
    rw [declaredLength_of_read hread, UInt32.toNat_inj] at hlength
    exact ⟨header, r, hheader, hdecoded, hview, hlength, hsame⟩
  trim_eq := h.trim_eq hwhole
  trim_of_more := h.bytes_of_more hwhole

/-- Trimming a view succeeds exactly if the length field is there and the view is as long as it
declares, which is never too long for a size; what is left is a reply of that length, and is the
same for whatever follows it. Else the fault says which of the two was missing. -/
theorem trim_normalizes (v : View) :
    (∀ length : UInt32, (Size.mul? length.toNat 4).bind (Size.add? · replyHeaderSize) =
      some (replyHeaderSize + 4 * length.toNat)) ∧
    ((∃ w, trim v = .ok w) ↔ 8 ≤ v.length ∧ ∃ length, v.uint32At 4 = .ok length ∧
      replyHeaderSize + 4 * length.toNat ≤ v.length) ∧
    (∀ w, trim v = .ok w → ∃ length, v.uint32At 4 = .ok length ∧ LeftOf v length w) ∧
    (v.length < 8 → trim v = .error (.range 4 4 v.length)) ∧
    ∀ length, v.uint32At 4 = .ok length → v.length < replyHeaderSize + 4 * length.toNat →
      trim v = .error (.range 0 (replyHeaderSize + 4 * length.toNat) v.length) := by
  have hsize {length : UInt32} (hread : v.uint32At 4 = .ok length) :
      v.declaredSize = replyHeaderSize + 4 * length.toNat := by
    rw [Buffer.declaredSize, declaredLength_of_read hread]
  refine ⟨size_of_length, ⟨?_, ?_⟩, fun w hw => ?_, trim_of_headless, fun length hread hless => ?_⟩
  · rintro ⟨w, hw⟩
    have hwhole := (trim_eq_ok_iff.mp hw).1
    have hfield := lengthOffset_le_of_whole hwhole
    obtain ⟨length, hread, -⟩ := length_read hfield
    exact ⟨hfield, length, hread, hsize hread ▸ hwhole⟩
  · rintro ⟨-, length, hread, hwhole⟩
    rw [← hsize hread] at hwhole
    obtain ⟨w, htrim, -⟩ := trim_of_whole hwhole
    exact ⟨w, htrim⟩
  · obtain ⟨hwhole, htrimmed⟩ := trim_eq_ok_iff.mp hw
    obtain ⟨length, hread, -⟩ := length_read (lengthOffset_le_of_whole hwhole)
    exact ⟨length, hread, htrimmed.leftOf hwhole hread⟩
  · rw [← hsize hread] at hless ⊢
    exact trim_of_partial (field_of_read hread) hless

/-- A reply without a variable part and a byte after it; only the first eight bytes of it; and two
bytes. -/
theorem trim_normalizes_of_trailing :
    let header : List UInt8 := [1, 24, 7, 0, 0, 0, 0, 0] ++ List.replicate 24 5
    let v := View.root ⟨header ++ [9], by decide⟩
    let longer := View.root ⟨header ++ [9] ++ [9, 9, 9], by decide⟩
    let bare := View.root ⟨[1, 24, 7, 0, 0, 0, 0, 0], by decide⟩
    (∃ w, trim v = .ok w ∧ w.length = 32 ∧ trim w = .ok w ∧
      ∃ w', trim longer = .ok w' ∧ w'.bytes = w.bytes) ∧
    trim bare = .error (.range 0 32 8) ∧
    trim (View.root ⟨[1, 24], by decide⟩) = .error (.range 4 4 2) := by
  intro header v longer bare
  obtain ⟨-, hok, hleft, -⟩ := trim_normalizes v
  obtain ⟨-, -, -, -, hpartial⟩ := trim_normalizes bare
  obtain ⟨-, -, -, hheadless, -⟩ := trim_normalizes (View.root ⟨[1, 24], by decide⟩)
  obtain ⟨w, hw⟩ := hok.mpr ⟨by decide, 0, rfl, by decide⟩
  obtain ⟨length, hread, hw'⟩ := hleft w hw
  have hzero : length = 0 := Except.ok.inj (hread.symm.trans rfl)
  subst hzero
  exact ⟨⟨w, hw, hw'.length_eq, hw'.trim_eq, hw'.trim_of_more (List.prefix_append _ _)⟩,
    hpartial 0 rfl (by decide), hheadless (by decide)⟩

end Reply

end DisplayClient
