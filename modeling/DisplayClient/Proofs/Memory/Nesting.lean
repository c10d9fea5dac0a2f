import DisplayClient.Proofs.Memory.Cutting
import DisplayClient.Proofs.Step.Sequencing
import Mathlib.Algebra.GroupWithZero.Nat

/-!
# Parts of parts

A part can be cut out of a view, a part out of that part, and so on
(`View.cutEach`). A part shows its bytes of the view, wherever they lie in it
(`View.Shows`), and parts of parts add their offsets up (`Shows.trans`,
`View.shows_of_cutEach`), although each of them records the last offset only.
What lies inside a part is read as it is read from the whole view, and
nothing else is read (`Shows.readsAs`). So the end of the direct parent is
all that a cutting or a reading has to respect, and what it comes to is found
in the root by the sum of the offsets (`parts_address_root`).
-/

namespace DisplayClient

/-- A way to cut a part out of a view. -/
inductive Cutting where
  /-- So many bytes from an offset on. -/
  | part (offset length : Nat)
  /-- Everything from an offset on. -/
  | rest (offset : Nat)

namespace Cutting

/-- Cuts the part out. -/
def perform : Cutting → View → Except Fault View
  | .part offset length, v => v.cut offset length
  | .rest offset, v => v.cutFrom offset

/-- Where the part starts. -/
def offset : Cutting → Nat
  | .part offset _ | .rest offset => offset

/-- How many bytes are asked for: none for a rest, which may be empty. -/
def asked : Cutting → Nat
  | .part _ length => length
  | .rest _ => 0

/-- How long the part of `available` bytes is. -/
def lengthIn (available : Nat) : Cutting → Nat
  | .part _ length => length
  | .rest offset => available - offset

/-- The part lies inside `available` bytes. -/
def Inside (available : Nat) (c : Cutting) : Prop := c.offset + c.asked ≤ available

instance (available : Nat) (c : Cutting) : Decidable (c.Inside available) :=
  inferInstanceAs (Decidable (_ ≤ _))

/-- The fault of a part that does not lie inside `available` bytes. -/
def fault (available : Nat) (c : Cutting) : Fault := .range c.offset c.asked available

variable {c : Cutting} {v w : View}

theorem perform_eq_ok_iff : c.perform v = .ok w ↔ c.Inside v.length ∧
    w.bytes = (v.bytes.drop c.offset).take (c.lengthIn v.length) ∧ w.origin = .cut c.offset := by
  cases c with
  | part offset length => exact View.cut_eq_ok_iff
  | rest offset =>
    have hall : (v.bytes.drop offset).take (v.length - offset) = v.bytes.drop offset :=
      List.take_of_length_le (Nat.le_of_eq List.length_drop)
    show v.cutFrom offset = .ok w ↔ offset + 0 ≤ v.length ∧
      w.bytes = (v.bytes.drop offset).take (v.length - offset) ∧ w.origin = .cut offset
    rw [View.cutFrom_eq_ok_iff, hall, Nat.add_zero]

theorem perform_of_outside (h : ¬ c.Inside v.length) : c.perform v = .error (c.fault v.length) := by
  cases c with
  | part offset length => exact (View.cut_eq v offset length).trans (if_neg h)
  | rest offset => exact (View.cutFrom_eq v offset).trans (if_neg h)

theorem offset_add_lengthIn_le {available : Nat} (h : c.Inside available) :
    c.offset + c.lengthIn available ≤ available := by
  cases c with
  | part offset length => exact h
  | rest offset => exact Nat.le_of_eq (Nat.add_sub_cancel' h)

theorem length_of_perform (h : c.perform v = .ok w) : w.length = c.lengthIn v.length := by
  obtain ⟨hinside, hbytes, -⟩ := perform_eq_ok_iff.mp h
  rw [Buffer.length, hbytes, View.length_take_drop (offset_add_lengthIn_le hinside)]

theorem exists_perform_iff (c : Cutting) (v : View) :
    (∃ w, c.perform v = .ok w) ↔ c.Inside v.length := by
  constructor
  · rintro ⟨w, hw⟩
    exact (perform_eq_ok_iff.mp hw).1
  · intro hinside
    obtain ⟨w, -, hbytes, horigin⟩ := View.exists_cut (offset_add_lengthIn_le hinside)
    exact ⟨w, perform_eq_ok_iff.mpr ⟨hinside, hbytes, horigin⟩⟩

/-- Where the last part starts in the root, by the offsets of all. -/
def start (cs : List Cutting) : Nat := (cs.map offset).sum

/-- How long the last part is, if the first is cut out of `available` bytes. -/
def lengthAfter (available : Nat) (cs : List Cutting) : Nat := cs.foldl lengthIn available

/-- Where the last part starts in its direct parent. Without parts there is only the root. -/
def lastOffset (cs : List Cutting) : Nat := (cs.getLast?.map offset).getD 0

/-- Each part lies inside the one before it, and the first inside `available` bytes. -/
def AllInside : Nat → List Cutting → Prop
  | _, [] => True
  | available, c :: cs => c.Inside available ∧ AllInside (c.lengthIn available) cs

instance AllInside.decidable : ∀ available cs, Decidable (AllInside available cs)
  | _, [] => .isTrue trivial
  | available, c :: cs =>
    letI := AllInside.decidable (c.lengthIn available) cs
    inferInstanceAs (Decidable (_ ∧ _))

end Cutting

open Cutting (start lengthAfter lastOffset AllInside)

namespace View

variable {u v w : View} {cs ds : List Cutting}

/-- Cuts a part out of a view, the next part out of that one, and so on. -/
def cutEach : View → List Cutting → Except Fault View
  | v, [] => .ok v
  | v, c :: cs => do (← c.perform v).cutEach cs

theorem cutEach_append (v : View) (cs ds : List Cutting) :
    v.cutEach (cs ++ ds) = v.cutEach cs >>= fun w => w.cutEach ds := by
  induction cs generalizing v with
  | nil => rfl
  | cons c cs ih =>
    rw [List.cons_append, cutEach, cutEach]
    cases c.perform v with
    | error fault => rfl
    | ok w => exact ih w

theorem cutEach_singleton (v : View) (c : Cutting) : v.cutEach [c] = c.perform v := by
  rw [cutEach]
  cases c.perform v <;> rfl

/-! ## Bytes -/

/-- The bytes of `v` are those of `u` from `start` on, all of which lie inside `u`. -/
structure Shows (v u : View) (start : Nat) : Prop where
  stop_le : start + v.length ≤ u.length
  bytes_eq : v.bytes = (u.bytes.drop start).take v.length

theorem Shows.refl (v : View) : v.Shows v 0 :=
  ⟨Nat.le_of_eq (Nat.zero_add _), by rw [List.drop_zero, List.take_length]⟩

/-- A part of a part is a part, further in by both offsets. -/
theorem Shows.trans {outer inner : Nat} (h : w.Shows v inner) (h' : v.Shows u outer) :
    w.Shows u (outer + inner) := by
  have hinner := h.stop_le
  have houter := h'.stop_le
  refine ⟨by omega, ?_⟩
  have hwidth : w.length ≤ v.length - inner := by omega
  calc w.bytes
    _ = (v.bytes.drop inner).take w.length := h.bytes_eq
    _ = (((u.bytes.drop outer).take v.length).drop inner).take w.length := by rw [← h'.bytes_eq]
    _ = ((u.bytes.drop (outer + inner)).take (v.length - inner)).take w.length := by
      rw [List.drop_take, List.drop_drop]
    _ = (u.bytes.drop (outer + inner)).take w.length := by
      rw [List.take_take, Nat.min_eq_left hwidth]

theorem shows_of_perform {c : Cutting} (h : c.perform v = .ok w) : w.Shows v c.offset := by
  obtain ⟨hinside, hbytes, -⟩ := Cutting.perform_eq_ok_iff.mp h
  have hstop := Cutting.offset_add_lengthIn_le hinside
  rw [← Cutting.length_of_perform h] at hstop hbytes
  exact ⟨hstop, hbytes⟩

/-- By induction on the parts: offsets add up. -/
theorem shows_of_cutEach (h : v.cutEach cs = .ok w) : w.Shows v (start cs) := by
  induction cs generalizing v with
  | nil =>
    cases h
    exact Shows.refl w
  | cons c cs ih =>
    obtain ⟨part, hpart, hrest⟩ := bind_eq_ok_iff.mp h
    exact (ih hrest).trans (shows_of_perform hpart)

theorem length_of_cutEach (h : v.cutEach cs = .ok w) : w.length = lengthAfter v.length cs := by
  induction cs generalizing v with
  | nil =>
    cases h
    rfl
  | cons c cs ih =>
    obtain ⟨part, hpart, hrest⟩ := bind_eq_ok_iff.mp h
    rw [ih hrest, Cutting.length_of_perform hpart]
    rfl

/-- Only the last cutting is recorded. -/
theorem offset_of_cutEach {raw : Buffer} (h : (root raw).cutEach cs = .ok v) :
    v.offset = lastOffset cs := by
  rcases List.eq_nil_or_concat cs with rfl | ⟨before, c, rfl⟩
  · cases h
    rfl
  · rw [List.concat_eq_append, cutEach_append] at h
    obtain ⟨parent, -, hlast⟩ := bind_eq_ok_iff.mp h
    rw [cutEach_singleton] at hlast
    have horigin := (Cutting.perform_eq_ok_iff.mp hlast).2.2
    rw [offset, horigin, lastOffset, List.concat_eq_append, List.getLast?_concat]
    rfl

/-! ## Success and failure -/

theorem exists_cutEach_iff (v : View) (cs : List Cutting) :
    (∃ w, v.cutEach cs = .ok w) ↔ AllInside v.length cs := by
  induction cs generalizing v with
  | nil => exact ⟨fun _ => trivial, fun _ => ⟨v, rfl⟩⟩
  | cons c cs ih =>
    constructor
    · rintro ⟨w, h⟩
      obtain ⟨part, hpart, hrest⟩ := bind_eq_ok_iff.mp h
      have hinside := (ih part).mp ⟨w, hrest⟩
      rw [Cutting.length_of_perform hpart] at hinside
      exact ⟨(Cutting.perform_eq_ok_iff.mp hpart).1, hinside⟩
    · rintro ⟨hfirst, hrest⟩
      obtain ⟨part, hpart⟩ := (Cutting.exists_perform_iff c v).mpr hfirst
      rw [← Cutting.length_of_perform hpart] at hrest
      obtain ⟨w, hw⟩ := (ih part).mpr hrest
      exact ⟨w, bind_eq_ok_iff.mpr ⟨part, hpart, hw⟩⟩

/-- The fault is that of the first part that does not lie inside the one before it. -/
inductive Misses (v : View) : List Cutting → Fault → Prop where
  | at {before after : List Cutting} {c : Cutting} {u : View} (hbefore : v.cutEach before = .ok u)
      (hmiss : ¬ c.Inside u.length) : Misses v (before ++ c :: after) (c.fault u.length)

theorem Misses.cutEach_eq {fault : Fault} (h : v.Misses cs fault) :
    v.cutEach cs = .error fault := by
  obtain ⟨hbefore, hmiss⟩ := h
  rw [cutEach_append, hbefore]
  show (do (← Cutting.perform _ _).cutEach _) = _
  rw [Cutting.perform_of_outside hmiss]
  rfl

theorem reaches_or_misses (v : View) (cs : List Cutting) :
    (∃ w, v.cutEach cs = .ok w) ∨ ∃ fault, v.Misses cs fault := by
  induction cs generalizing v with
  | nil => exact .inl ⟨v, rfl⟩
  | cons c cs ih =>
    by_cases hinside : c.Inside v.length
    · obtain ⟨part, hpart⟩ := (Cutting.exists_perform_iff c v).mpr hinside
      rcases ih part with ⟨w, hw⟩ | ⟨_, @⟨before, after, c', u, hbefore, hmiss⟩⟩
      · exact .inl ⟨w, bind_eq_ok_iff.mpr ⟨part, hpart, hw⟩⟩
      · refine .inr ⟨c'.fault u.length, ?_⟩
        rw [← List.cons_append]
        exact .at (bind_eq_ok_iff.mpr ⟨part, hpart, hbefore⟩) hmiss
    · refine .inr ⟨c.fault v.length, ?_⟩
      rw [← List.nil_append (c :: cs)]
      exact .at rfl hinside

/-! ## Reading -/

section Reading

variable {α : Type}

/-- What lies inside `v` is read as it is read from `u`, and nothing else is read. -/
structure ReadsAs (read : View → Nat → Except Fault α) (width : Nat) (v u : View) (start : Nat) :
    Prop where
  ok_iff (offset : Nat) : (∃ a, read v offset = .ok a) ↔ offset + width ≤ v.length
  of_inside {offset : Nat} : offset + width ≤ v.length → read v offset = read u (start + offset)
  of_outside {offset : Nat} :
    v.length < offset + width → read v offset = .error (.range offset width v.length)

/-- The bytes of a number that lies inside `v` are those that `u` has there. -/
theorem Shows.bytes_at {start offset width : Nat} (h : v.Shows u start)
    (hinside : offset + width ≤ v.length) :
    (v.bytes.drop offset).take width = (u.bytes.drop (start + offset)).take width := by
  have hwidth : width ≤ v.length - offset := by omega
  rw [h.bytes_eq, List.drop_take, List.drop_drop, List.take_take, Nat.min_eq_left hwidth]

/-- Reading a number of some width, of whatever type. -/
theorem Shows.readsAs_number {start : Nat} (h : v.Shows u start) (width : Nat) (f : Nat → α) :
    ReadsAs (fun v offset => (v.numberAt offset width).map f) width v u start where
  ok_iff offset := by
    by_cases hinside : offset + width ≤ v.length
    · simp [numberAt_of_le hinside, hinside, Except.map]
    · simp [numberAt_of_lt (Nat.lt_of_not_le hinside), hinside, Except.map]
  of_inside {offset} hinside := by
    have hstop := h.stop_le
    have hroom : start + offset + width ≤ u.length := by omega
    simp only [numberAt_of_le hinside, numberAt_of_le hroom, h.bytes_at hinside]
  of_outside houtside := by
    rw [numberAt_of_lt houtside]
    rfl

/-- A byte is a number of one byte. -/
theorem uint8At_eq : uint8At = fun v offset => (v.numberAt offset 1).map UInt8.ofNat := by
  funext v offset
  rw [uint8At]
  by_cases hinside : offset + 1 ≤ v.length
  · have hlt : offset < v.bytes.length := hinside
    rw [numberAt_of_le hinside, List.getElem?_eq_getElem hlt, List.drop_eq_getElem_cons hlt,
      List.take_succ_cons, List.take_zero]
    simp only [Except.map, LittleEndian.value, Nat.mul_zero, Nat.add_zero, UInt8.ofNat_toNat]
  · rw [numberAt_of_lt (Nat.lt_of_not_le hinside),
      List.getElem?_eq_none (Nat.le_of_not_lt hinside)]
    rfl

theorem Shows.readsAs_uint8 {start : Nat} (h : v.Shows u start) :
    ReadsAs uint8At 1 v u start := by
  rw [uint8At_eq]
  exact h.readsAs_number 1 UInt8.ofNat

end Reading

/-! ## The root -/

/-- What is known of a part of a part of the root, whose cuttings are `cs`: it records the last
offset only, but shows the root from where all of them add up to, and of the root nothing that lies
outside itself. -/
structure Addresses (raw : Buffer) (cs : List Cutting) (v : View) : Prop where
  offset_eq : v.offset = lastOffset cs
  length_eq : v.length = lengthAfter raw.length cs
  shows : v.Shows (root raw) (start cs)
  uint8At : ReadsAs uint8At 1 v (root raw) (start cs)
  uint16At : ReadsAs uint16At 2 v (root raw) (start cs)
  uint32At : ReadsAs uint32At 4 v (root raw) (start cs)

theorem addresses_of_cutEach {raw : Buffer} (h : (root raw).cutEach cs = .ok v) :
    Addresses raw cs v where
  offset_eq := offset_of_cutEach h
  length_eq := length_of_cutEach h
  shows := shows_of_cutEach h
  uint8At := (shows_of_cutEach h).readsAs_uint8
  uint16At := (shows_of_cutEach h).readsAs_number 2 UInt16.ofNat
  uint32At := (shows_of_cutEach h).readsAs_number 4 UInt32.ofNat

/-- However often parts are cut out of parts: a cutting succeeds exactly if the part lies inside its
direct parent, whatever lies around that, and a chain of them exactly if all do; else there is the
range fault of the first part that does not. What a chain leads to is the part of the root from the
sum of the offsets on, and so it is for whatever the chain goes through on its way. -/
theorem parts_address_root (raw : Buffer) (cs : List Cutting) :
    (∀ (v : View) (c : Cutting), ((∃ w, c.perform v = .ok w) ↔ c.Inside v.length) ∧
      (¬ c.Inside v.length → c.perform v = .error (c.fault v.length))) ∧
    ((∃ v, (root raw).cutEach cs = .ok v) ↔ AllInside raw.length cs) ∧
    (∀ fault, (root raw).cutEach cs = .error fault ↔ (root raw).Misses cs fault) ∧
    ∀ v, (root raw).cutEach cs = .ok v → Addresses raw cs v ∧
      ∀ before after u, cs = before ++ after → (root raw).cutEach before = .ok u →
        u.cutEach after = .ok v ∧ v.Shows u (start after) := by
  have hsettled := result_iff_of_settled (fun v (hv : (root raw).cutEach cs = .ok v) => hv)
    (fun fault => Misses.cutEach_eq) (reaches_or_misses (root raw) cs)
  refine ⟨fun v c => ⟨c.exists_perform_iff v, Cutting.perform_of_outside⟩,
    exists_cutEach_iff (root raw) cs, hsettled.2, fun v hv => ⟨addresses_of_cutEach hv, ?_⟩⟩
  rintro before after u rfl hu
  rw [cutEach_append, hu] at hv
  have hafter : u.cutEach after = .ok v := hv
  exact ⟨hafter, shows_of_cutEach hafter⟩

/-- A part of four bytes, and all of it but the first: the byte after the part is in the root, but is
not read through the part. -/
theorem parts_address_root_of_two :
    let raw : Buffer := ⟨[10, 11, 12, 13, 14, 15, 16, 17], by decide⟩
    let cs : List Cutting := [.part 2 4, .rest 1]
    ∃ v, (root raw).cutEach cs = .ok v ∧ v.offset = 1 ∧ v.bytes = [13, 14, 15] ∧
      v.uint16At 1 = (root raw).uint16At 4 ∧ (root raw).uint32At 3 = .ok 0x100f0e0d ∧
      v.uint32At 0 = .error (.range 0 4 3) ∧
      (Cutting.part 1 (2 ^ 64 - 1)).perform v = .error (.range 1 (2 ^ 64 - 1) 3) := by
  intro raw cs
  obtain ⟨hstep, hok, -, hreach⟩ := parts_address_root raw cs
  obtain ⟨v, hv⟩ := hok.mpr (by decide)
  obtain ⟨hv', -⟩ := hreach v hv
  have hlength : v.length = 3 := hv'.length_eq
  have hbytes := hv'.shows.bytes_eq
  rw [hlength] at hbytes
  refine ⟨v, hv, hv'.offset_eq, hbytes, hv'.uint16At.of_inside (by omega), rfl, ?_, ?_⟩
  · have hread := hv'.uint32At.of_outside (show v.length < 0 + 4 by omega)
    rwa [hlength] at hread
  · have hfault := (hstep v (.part 1 (2 ^ 64 - 1))).2 (by rw [hlength]; decide)
    rwa [hlength] at hfault

end View

end DisplayClient
