import DisplayClient.Memory.Window

/-!
# The parts of a view

A part is known by its bytes and by where it was cut
(`View.cut_eq_ok_iff`, `View.cutFrom_eq_ok_iff`), and can be cut wherever
there are bytes for it (`View.exists_cut`). What is left of a view from an
offset on is `View.rest`; there is nothing to cut past the end
(`View.cutFrom_eq_rest`). A byte is read if it is there
(`View.uint8At_eq_ok_iff`), and a number from the bytes that it lies in, if all
of them are there (`View.numberAt_of_le`, `View.numberAt_of_lt`).
-/

namespace DisplayClient.View

theorem eq_of_bytes_eq {v w : View} (hbytes : v.bytes = w.bytes) (horigin : v.origin = w.origin) :
    v = w := by
  obtain ⟨⟨bytes, hlt⟩, origin⟩ := v
  obtain ⟨⟨bytes', hlt'⟩, origin'⟩ := w
  subst hbytes horigin
  rfl

theorem cut_eq_ok_iff {v w : View} {offset length : Nat} :
    v.cut offset length = .ok w ↔ offset + length ≤ v.length ∧
      w.bytes = (v.bytes.drop offset).take length ∧ w.origin = .cut offset := by
  rw [cut_eq]
  by_cases hfits : offset + length ≤ v.length
  · rw [if_pos hfits, Except.ok.injEq]
    constructor
    · rintro rfl
      exact ⟨hfits, rfl, rfl⟩
    · rintro ⟨-, hbytes, horigin⟩
      exact eq_of_bytes_eq hbytes.symm horigin.symm
  · simp [hfits]

theorem length_take_drop {v : View} {offset length : Nat} (h : offset + length ≤ v.length) :
    ((v.bytes.drop offset).take length).length = length := by
  refine List.length_take_of_le ?_
  rw [List.length_drop]
  exact Nat.le_sub_of_add_le' h

theorem length_of_cut {v w : View} {offset length : Nat} (h : v.cut offset length = .ok w) :
    w.length = length := by
  obtain ⟨hfits, hbytes, -⟩ := cut_eq_ok_iff.mp h
  rw [Buffer.length, hbytes, length_take_drop hfits]

theorem offset_of_cut {v w : View} {offset length : Nat} (h : v.cut offset length = .ok w) :
    w.offset = offset := by
  rw [View.offset, (cut_eq_ok_iff.mp h).2.2]

theorem exists_cut {v : View} {offset length : Nat} (h : offset + length ≤ v.length) :
    ∃ w, v.cut offset length = .ok w ∧ w.bytes = (v.bytes.drop offset).take length ∧
      w.origin = .cut offset := by
  rw [cut_eq, if_pos h]
  exact ⟨_, rfl, rfl, rfl⟩

theorem cutFrom_eq_ok_iff {v w : View} {offset : Nat} :
    v.cutFrom offset = .ok w ↔
      offset ≤ v.length ∧ w.bytes = v.bytes.drop offset ∧ w.origin = .cut offset := by
  rw [cutFrom_eq]
  by_cases hfits : offset ≤ v.length
  · have hall : (v.bytes.drop offset).take (v.length - offset) = v.bytes.drop offset :=
      List.take_of_length_le (Nat.le_of_eq List.length_drop)
    have hend : offset + (v.length - offset) ≤ v.length := by omega
    rw [if_pos hfits, cut_eq_ok_iff, hall]
    simp only [hend, hfits, true_and]
  · simp [hfits]

/-- What is left of the view from `offset` on, which is nothing past the end. -/
def rest (v : View) (offset : Nat) : View :=
  ⟨⟨v.bytes.drop offset, by
    have := v.length_lt
    rw [List.length_drop]
    omega⟩, .cut offset⟩

theorem cutFrom_eq_rest (v : View) (offset : Nat) :
    v.cutFrom offset =
      if offset ≤ v.length then .ok (v.rest offset) else .error (.range offset 0 v.length) := by
  by_cases hle : offset ≤ v.length
  · rw [if_pos hle]
    exact cutFrom_eq_ok_iff.mpr ⟨hle, rfl, rfl⟩
  · rw [cutFrom_eq, if_neg hle, if_neg hle]

theorem uint8At_eq_ok_iff {v : View} {offset : Nat} {b : UInt8} :
    v.uint8At offset = .ok b ↔ v.bytes[offset]? = some b := by
  rw [uint8At]
  cases v.bytes[offset]? <;> simp

theorem numberAt_of_le {v : View} {offset width : Nat} (h : offset + width ≤ v.length) :
    v.numberAt offset width = .ok (LittleEndian.value ((v.bytes.drop offset).take width)) := by
  rw [numberAt, slice?_eq, if_pos h]

theorem numberAt_of_lt {v : View} {offset width : Nat} (h : v.length < offset + width) :
    v.numberAt offset width = .error (.range offset width v.length) := by
  rw [numberAt, slice?_eq, if_neg (Nat.not_le.mpr h)]
  rfl

end DisplayClient.View
