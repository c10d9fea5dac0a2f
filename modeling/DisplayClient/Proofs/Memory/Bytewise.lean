import DisplayClient.Proofs.Memory.LittleEndian
import DisplayClient.Proofs.Memory.Nesting

/-!
# Numbers byte by byte

A number that is read from a view is its low byte and, 256 times, the number
in the bytes after that one (`View.numberAt_succ_eq_ok_iff`), down to the last
byte (`View.numberAt_one_eq_ok_iff`). So numbers of two and of four bytes can
be read exactly if each of their bytes can, and are what the bytes come to
(`View.uint16At_eq_ok_iff`, `View.uint32At_eq_ok_iff`).
-/

namespace DisplayClient.View

variable {v : View} {offset width : Nat}

theorem numberAt_lt {n : Nat} (h : v.numberAt offset width = .ok n) : n < 256 ^ width := by
  by_cases hinside : offset + width ≤ v.length
  · rw [numberAt_of_le hinside] at h
    cases h
    have hlt := LittleEndian.value_lt ((v.bytes.drop offset).take width)
    rwa [length_take_drop hinside] at hlt
  · rw [numberAt_of_lt (Nat.lt_of_not_le hinside)] at h
    cases h

/-- A type that has room for the number does not change it. -/
theorem numberAt_map_eq_ok_iff {α : Type} {toNat : α → Nat} {ofNat : Nat → α} {x : α}
    (hofNat : ∀ x, ofNat (toNat x) = x) (htoNat : ∀ n < 256 ^ width, toNat (ofNat n) = n) :
    (v.numberAt offset width).map ofNat = .ok x ↔ v.numberAt offset width = .ok (toNat x) := by
  cases hread : v.numberAt offset width with
  | error fault => simp [Except.map]
  | ok n =>
    simp only [Except.map, Except.ok.injEq]
    constructor
    · rintro rfl
      exact (htoNat n (numberAt_lt hread)).symm
    · rintro rfl
      exact hofNat x

/-- The first byte is the low one, and the bytes after it are a number, too. -/
theorem numberAt_succ_eq_ok_iff {n : Nat} : v.numberAt offset (width + 1) = .ok n ↔
    ∃ low rest, v.uint8At offset = .ok low ∧ v.numberAt (offset + 1) width = .ok rest ∧
      n = low.toNat + 256 * rest := by
  by_cases hinside : offset + (width + 1) ≤ v.length
  · have hlt : offset < v.bytes.length :=
      Nat.lt_of_lt_of_le (Nat.lt_add_of_pos_right (Nat.succ_pos width)) hinside
    have hlow : v.uint8At offset = .ok v.bytes[offset] :=
      uint8At_eq_ok_iff.mpr (List.getElem?_eq_getElem hlt)
    have hrest : offset + 1 + width ≤ v.length := by omega
    rw [numberAt_of_le hinside, numberAt_of_le hrest, hlow, List.drop_eq_getElem_cons hlt,
      List.take_succ_cons, LittleEndian.value]
    constructor
    · intro h
      exact ⟨_, _, rfl, rfl, (Except.ok.inj h).symm⟩
    · rintro ⟨_, _, hb, hn, rfl⟩
      cases hb
      cases hn
      rfl
  · have hrest : v.length < offset + 1 + width := by omega
    rw [numberAt_of_lt (Nat.lt_of_not_le hinside), numberAt_of_lt hrest]
    simp

theorem numberAt_one_eq_ok_iff {n : Nat} :
    v.numberAt offset 1 = .ok n ↔ ∃ b, v.uint8At offset = .ok b ∧ n = b.toNat := by
  have hbyte (b : UInt8) : v.uint8At offset = .ok b ↔ v.numberAt offset 1 = .ok b.toNat := by
    rw [uint8At_eq]
    exact numberAt_map_eq_ok_iff (fun _ => UInt8.ofNat_toNat) fun _ => UInt8.toNat_ofNat_of_lt'
  simp only [hbyte]
  constructor
  · intro h
    have hn : (UInt8.ofNat n).toNat = n := UInt8.toNat_ofNat_of_lt' (numberAt_lt h)
    exact ⟨UInt8.ofNat n, by rw [hn, h], hn.symm⟩
  · rintro ⟨b, h, rfl⟩
    exact h

theorem uint16At_eq_ok_iff {n : UInt16} : v.uint16At offset = .ok n ↔
    ∃ b₀ b₁, v.uint8At offset = .ok b₀ ∧ v.uint8At (offset + 1) = .ok b₁ ∧
      n.toNat = b₀.toNat + 256 * b₁.toNat := by
  have hnumber : v.uint16At offset = .ok n ↔ v.numberAt offset 2 = .ok n.toNat :=
    numberAt_map_eq_ok_iff (fun _ => UInt16.ofNat_toNat) fun _ => UInt16.toNat_ofNat_of_lt'
  rw [hnumber, numberAt_succ_eq_ok_iff]
  constructor
  · rintro ⟨b₀, rest, h₀, hrest, hn⟩
    obtain ⟨b₁, h₁, rfl⟩ := numberAt_one_eq_ok_iff.mp hrest
    exact ⟨b₀, b₁, h₀, h₁, hn⟩
  · rintro ⟨b₀, b₁, h₀, h₁, hn⟩
    exact ⟨b₀, b₁.toNat, h₀, numberAt_one_eq_ok_iff.mpr ⟨b₁, h₁, rfl⟩, hn⟩

theorem uint32At_eq_ok_iff {n : UInt32} : v.uint32At offset = .ok n ↔
    ∃ b₀ b₁ b₂ b₃, v.uint8At offset = .ok b₀ ∧ v.uint8At (offset + 1) = .ok b₁ ∧
      v.uint8At (offset + 2) = .ok b₂ ∧ v.uint8At (offset + 3) = .ok b₃ ∧
      n.toNat = b₀.toNat + 256 * b₁.toNat + 256 ^ 2 * b₂.toNat + 256 ^ 3 * b₃.toNat := by
  have hnumber : v.uint32At offset = .ok n ↔ v.numberAt offset 4 = .ok n.toNat :=
    numberAt_map_eq_ok_iff (fun _ => UInt32.ofNat_toNat) fun _ => UInt32.toNat_ofNat_of_lt'
  rw [hnumber]
  constructor
  · intro h
    obtain ⟨b₀, rest₁, h₀, hrest₁, hn⟩ := numberAt_succ_eq_ok_iff.mp h
    obtain ⟨b₁, rest₂, h₁, hrest₂, hn₁⟩ := numberAt_succ_eq_ok_iff.mp hrest₁
    obtain ⟨b₂, rest₃, h₂, hrest₃, hn₂⟩ := numberAt_succ_eq_ok_iff.mp hrest₂
    obtain ⟨b₃, h₃, hn₃⟩ := numberAt_one_eq_ok_iff.mp hrest₃
    exact ⟨b₀, b₁, b₂, b₃, h₀, h₁, h₂, h₃, by omega⟩
  · rintro ⟨b₀, b₁, b₂, b₃, h₀, h₁, h₂, h₃, hn⟩
    have hrest₃ := numberAt_one_eq_ok_iff.mpr ⟨b₃, h₃, rfl⟩
    have hrest₂ := numberAt_succ_eq_ok_iff.mpr ⟨b₂, _, h₂, hrest₃, rfl⟩
    have hrest₁ := numberAt_succ_eq_ok_iff.mpr ⟨b₁, _, h₁, hrest₂, rfl⟩
    exact numberAt_succ_eq_ok_iff.mpr ⟨b₀, _, h₀, hrest₁, by omega⟩

end DisplayClient.View
