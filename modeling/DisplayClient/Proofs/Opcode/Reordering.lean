import DisplayClient.Proofs.Opcode.Replay
import Mathlib.Data.List.Perm.Basic

/-!
# Insertions in any order

A declaration writes one slot (`OpcodeTable.place_of_lt`), so that two
declarations may be placed in either order unless they give one slot two types
(`OpcodeTable.place_comm`). What a list of insertions writes is the
declarations of those that fit, one after the other
(`Insertion.applyAll_eq`). If no slot is given two types in the whole list
(`Insertion.Compatible`), the tables that it leaves do not hang on the order,
of the insertions as of the lists in them (`Insertion.applyAll_reordered`).
What comes of an insertion never does (`Insertion.answers_reordered`), as only
its bases and its highest numbers decide it.
-/

namespace DisplayClient

/-! ## Declarations -/

namespace OpcodeTable

/-- The table with `type` in a slot, as a declaration leaves it: a slot that has the type stays as
it is. -/
def write (slot : Fin tableSize) (type : TypeTag) (table : OpcodeTable) : OpcodeTable :=
  if table.slots.get slot = some type then table else table.set slot type

theorem place_of_lt {base : UInt8} {d : Declaration}
    (h : base.toNat + d.number.toNat < tableSize) (table : OpcodeTable) :
    place base table d = table.write ⟨base.toNat + d.number.toNat, h⟩ d.type := by
  have hget : table.slots.get ⟨base.toNat + d.number.toNat, h⟩ =
      table.slots[base.toNat + d.number.toNat] := rfl
  rw [place, insert_of_lt h, write, hget]
  simp only [Fin.getElem_fin]
  split <;> rfl

theorem place_of_le {base : UInt8} {d : Declaration}
    (h : tableSize ≤ base.toNat + d.number.toNat) (table : OpcodeTable) :
    place base table d = table := by
  rw [place, insert_of_le h]

theorem slots_write (slot : Fin tableSize) (type : TypeTag) (table : OpcodeTable) :
    (table.write slot type).slots = table.slots.set slot (some type) slot.isLt := by
  rw [write]
  split
  next hsame =>
    have hslot : table.slots[slot.val] = some type := hsame
    rw [← hslot, Vector.set_getElem_self]
  next => rfl

theorem length_write (slot : Fin tableSize) (type : TypeTag) (table : OpcodeTable) :
    (table.write slot type).length =
      if table.slots.get slot = some type then table.length else max table.length (slot + 1) := by
  rw [write]
  split <;> rfl

theorem get_slots_write_of_ne {slot slot' : Fin tableSize} (h : slot ≠ slot')
    (type : TypeTag) (table : OpcodeTable) :
    (table.write slot type).slots.get slot' = table.slots.get slot' := by
  rw [slots_write]
  exact Vector.getElem_set_ne _ _ fun heq => h (Fin.ext heq)

/-- Whether a slot has a type already is no matter of the other slots, so that the length comes out
the same, too. -/
theorem write_comm {slot slot' : Fin tableSize} {type type' : TypeTag}
    (h : slot = slot' → type = type') (table : OpcodeTable) :
    (table.write slot type).write slot' type' = (table.write slot' type').write slot type := by
  by_cases hslot : slot = slot'
  · rw [← hslot, ← h hslot]
  · have hslots : ((table.write slot type).write slot' type').slots =
        ((table.write slot' type').write slot type).slots := by
      simp only [slots_write]
      exact Vector.set_comm _ _ fun heq => hslot (Fin.ext heq)
    have hlength : ((table.write slot type).write slot' type').length =
        ((table.write slot' type').write slot type).length := by
      rw [length_write, length_write, get_slots_write_of_ne hslot, length_write, length_write,
        get_slots_write_of_ne (Ne.symm hslot)]
      split <;> split <;> omega
    rw [OpcodeTable.mk.injEq]
    exact ⟨hslots, hlength⟩

/-- Places a declaration at its base. -/
def placeAt (table : OpcodeTable) (p : UInt8 × Declaration) : OpcodeTable := place p.1 table p.2

/-- The declarations do not give one slot two types. -/
def Agree (p q : UInt8 × Declaration) : Prop :=
  p.1.toNat + p.2.number.toNat < tableSize →
    p.1.toNat + p.2.number.toNat = q.1.toNat + q.2.number.toNat → p.2.type = q.2.type

instance (p q : UInt8 × Declaration) : Decidable (Agree p q) :=
  inferInstanceAs (Decidable (_ → _ → _))

theorem place_comm {p q : UInt8 × Declaration} (h : Agree p q) (table : OpcodeTable) :
    (table.placeAt p).placeAt q = (table.placeAt q).placeAt p := by
  simp only [placeAt]
  by_cases hp : p.1.toNat + p.2.number.toNat < tableSize
  · by_cases hq : q.1.toNat + q.2.number.toNat < tableSize
    · simp only [place_of_lt hp, place_of_lt hq]
      exact write_comm (fun hslot => h hp (congrArg Fin.val hslot)) table
    · simp only [place_of_le (Nat.le_of_not_lt hq)]
  · simp only [place_of_le (Nat.le_of_not_lt hp)]

/-- No slot is given two types anywhere in the lists, each at its base. -/
def Compatible (lists : List (UInt8 × List Declaration)) : Prop :=
  ∀ p ∈ lists, ∀ q ∈ lists, ∀ d ∈ p.2, ∀ d' ∈ q.2, Agree (p.1, d) (q.1, d')

instance (lists : List (UInt8 × List Declaration)) : Decidable (Compatible lists) :=
  inferInstanceAs (Decidable (∀ p ∈ lists, ∀ q ∈ lists, ∀ d ∈ p.2, ∀ d' ∈ q.2, _))

/-- Only the highest number decides whether a list fits. -/
theorem highest?_perm {ds ds' : List Declaration} (h : ds.Perm ds') :
    highest? ds = highest? ds' := by
  have hmem (n : Nat) : n ∈ ds.map (fun d => d.number.toNat) ↔
      n ∈ ds'.map fun d => d.number.toNat := (h.map _).mem_iff
  cases hmax : highest? ds' with
  | none =>
    rw [highest?, List.max?_eq_none_iff, List.map_eq_nil_iff] at hmax ⊢
    subst hmax
    exact h.eq_nil
  | some n =>
    rw [highest?, List.max?_eq_some_iff] at hmax ⊢
    exact ⟨(hmem n).mpr hmax.1, fun m hm => hmax.2 m ((hmem m).mp hm)⟩

theorem checkRoom_perm {ds ds' : List Declaration} (h : ds.Perm ds') (base : UInt8) :
    checkRoom base ds = checkRoom base ds' := by
  rw [checkRoom, highest?_perm h, checkRoom]

end OpcodeTable

/-! ## Lists in another order -/

/-- The lists have related members, each as often, in any order. -/
def ReorderedBy {α : Type} (related : α → α → Prop) (as bs : List α) : Prop :=
  ∃ cs, as.Perm cs ∧ List.Forall₂ related cs bs

namespace ReorderedBy

variable {α β : Type} {related : α → α → Prop} {as bs : List α}

theorem of_perm {as bs : List α} (hrelated : ∀ a, related a a) (h : as.Perm bs) :
    ReorderedBy related as bs :=
  ⟨bs, h, List.forall₂_same.mpr fun a _ => hrelated a⟩

theorem map {related' : β → β → Prop} (h : ReorderedBy related as bs) {f : α → β}
    (hf : ∀ a b, related a b → related' (f a) (f b)) :
    ReorderedBy related' (as.map f) (bs.map f) := by
  obtain ⟨cs, hperm, hrelated⟩ := h
  refine ⟨cs.map f, hperm.map f, ?_⟩
  rw [List.forall₂_map_left_iff, List.forall₂_map_right_iff]
  exact hrelated.imp hf

theorem flatMap_perm (h : ReorderedBy related as bs) {f : α → List β}
    (hf : ∀ a b, related a b → (f a).Perm (f b)) : (as.flatMap f).Perm (bs.flatMap f) := by
  obtain ⟨cs, hperm, hrelated⟩ := h
  refine (hperm.flatMap_right f).trans ?_
  clear hperm
  induction hrelated with
  | nil => exact .nil
  | cons hab _ ih =>
    rw [List.flatMap_cons, List.flatMap_cons]
    exact (hf _ _ hab).append ih

end ReorderedBy

/-! ## Insertions -/

namespace Insertion

open OpcodeTable (placeAt)

/-- The tables after insertions, one after the other. -/
def applyAll (insertions : List Insertion) (tables : OpcodeTables) : OpcodeTables :=
  insertions.foldl (fun tables i => i.apply tables) tables

/-- What comes of an insertion. -/
def answer (i : Insertion) (tables : OpcodeTables) : Except Fault Unit :=
  (OpcodeTables.insertModule i.firstEvent i.events i.firstError i.errors tables).result

/-- Insertions one after the other, each with what comes of it. -/
def answers : List Insertion → OpcodeTables → List (Insertion × Except Fault Unit)
  | [], _ => []
  | i :: insertions, tables => (i, i.answer tables) :: answers insertions (i.apply tables)

/-- No slot is given two types anywhere in the insertions. -/
structure Compatible (insertions : List Insertion) : Prop where
  events : OpcodeTable.Compatible (insertions.map eventList)
  errors : OpcodeTable.Compatible (insertions.map errorList)

/-- The insertions have the same bases and the same lists, but for the order in them. -/
structure Alike (i j : Insertion) : Prop where
  firstEvent_eq : i.firstEvent = j.firstEvent
  firstError_eq : i.firstError = j.firstError
  events_perm : i.events.Perm j.events
  errors_perm : i.errors.Perm j.errors

theorem Alike.refl (i : Insertion) : Alike i i := ⟨rfl, rfl, .refl _, .refl _⟩

/-- Both of the lists fit. -/
def Fits (i : Insertion) : Prop :=
  OpcodeTable.Fits i.firstEvent i.events ∧ OpcodeTable.Fits i.firstError i.errors

instance (i : Insertion) : Decidable i.Fits := inferInstanceAs (Decidable (_ ∧ _))

/-- The declarations of a list, each at the base of the list, if the insertion fits. -/
def placements (list : Insertion → UInt8 × List Declaration) (i : Insertion) :
    List (UInt8 × Declaration) :=
  if i.Fits then (list i).2.map fun d => ((list i).1, d) else []

theorem apply_eq (i : Insertion) (tables : OpcodeTables) :
    i.apply tables = ⟨(i.placements eventList).foldl placeAt tables.events,
      (i.placements errorList).foldl placeAt tables.errors⟩ := by
  by_cases h : i.Fits
  · rw [apply_of_fits h.1 h.2]
    simp only [placements, h, if_true, List.foldl_map]
    rfl
  · obtain ⟨base, number, hinsert⟩ := OpcodeTables.insertModule_of_not_fits h tables
    rw [apply, hinsert]
    simp only [placements, h, if_false]
    rfl

/-- By induction on the insertions, which leave each table to the declarations for it. -/
theorem applyAll_eq (insertions : List Insertion) (tables : OpcodeTables) :
    applyAll insertions tables =
      ⟨(insertions.flatMap (placements eventList)).foldl placeAt tables.events,
        (insertions.flatMap (placements errorList)).foldl placeAt tables.errors⟩ := by
  induction insertions generalizing tables with
  | nil => rfl
  | cons i insertions ih =>
    have hrest : applyAll (i :: insertions) tables = applyAll insertions (i.apply tables) := rfl
    rw [hrest, ih, apply_eq]
    simp only [List.flatMap_cons, List.foldl_append]

section Reordering

variable {i j : Insertion} {insertions insertions' : List Insertion}

theorem Alike.fits_iff (h : Alike i j) : i.Fits ↔ j.Fits := by
  simp only [Fits, OpcodeTable.Fits, h.firstEvent_eq, h.firstError_eq, h.events_perm.mem_iff,
    h.errors_perm.mem_iff]

theorem Alike.placements_perm (list : Insertion → UInt8 × List Declaration) (h : Alike i j)
    (hbase : (list i).1 = (list j).1) (hlist : (list i).2.Perm (list j).2) :
    (i.placements list).Perm (j.placements list) := by
  simp only [placements, h.fits_iff, hbase]
  split
  · exact hlist.map _
  · exact .refl _

theorem agree_of_mem_placements {list : Insertion → UInt8 × List Declaration}
    (h : OpcodeTable.Compatible (insertions.map list)) {p q : UInt8 × Declaration}
    (hp : p ∈ insertions.flatMap (placements list))
    (hq : q ∈ insertions.flatMap (placements list)) : OpcodeTable.Agree p q := by
  have hfrom {p : UInt8 × Declaration} (hp : p ∈ insertions.flatMap (placements list)) :
      ∃ ds ∈ insertions.map list, ∃ d ∈ ds.2, (ds.1, d) = p := by
    obtain ⟨i, hi, hp⟩ := List.mem_flatMap.mp hp
    rw [placements] at hp
    split at hp
    · exact ⟨list i, List.mem_map_of_mem hi, List.mem_map.mp hp⟩
    · cases hp
  obtain ⟨ps, hps, d, hd, rfl⟩ := hfrom hp
  obtain ⟨qs, hqs, d', hd', rfl⟩ := hfrom hq
  exact h ps hps qs hqs d hd d' hd'

/-- What is left in one table by insertions that give no slot of it two types. -/
theorem foldl_placeAt_perm {list : Insertion → UInt8 × List Declaration}
    (hcompatible : OpcodeTable.Compatible (insertions.map list))
    (hperm : (insertions.flatMap (placements list)).Perm
      (insertions'.flatMap (placements list))) (table : OpcodeTable) :
    (insertions.flatMap (placements list)).foldl placeAt table =
      (insertions'.flatMap (placements list)).foldl placeAt table :=
  hperm.foldl_eq' (fun _ hp _ hq table =>
    OpcodeTable.place_comm (agree_of_mem_placements hcompatible hp hq) table) table

/-- Compatible insertions leave the same tables in any order. -/
theorem applyAll_reordered (hcompatible : Compatible insertions)
    (h : ReorderedBy Alike insertions insertions') (tables : OpcodeTables) :
    applyAll insertions' tables = applyAll insertions tables := by
  have hevents := h.flatMap_perm fun i j hij =>
    hij.placements_perm eventList hij.firstEvent_eq hij.events_perm
  have herrors := h.flatMap_perm fun i j hij =>
    hij.placements_perm errorList hij.firstError_eq hij.errors_perm
  rw [applyAll_eq, applyAll_eq, foldl_placeAt_perm hcompatible.events hevents,
    foldl_placeAt_perm hcompatible.errors herrors]

/-- What comes of an insertion hangs on its numbers alone. -/
theorem answer_eq (i : Insertion) (tables : OpcodeTables) :
    i.answer tables = (do
      OpcodeTable.checkRoom i.firstEvent i.events
      OpcodeTable.checkRoom i.firstError i.errors) := by
  rw [answer]
  by_cases hevents : OpcodeTable.Fits i.firstEvent i.events
  · have hchecked := OpcodeTable.checkRoom_of_fits hevents
    by_cases herrors : OpcodeTable.Fits i.firstError i.errors
    · obtain ⟨lines, hinsert⟩ := OpcodeTables.insertModule_of_fits hevents herrors tables
      rw [hinsert, hchecked, OpcodeTable.checkRoom_of_fits herrors]
      rfl
    · obtain ⟨number, hrefused⟩ := OpcodeTable.checkRoom_of_not_fits herrors
      rw [OpcodeTables.insertModule, Step.liftM_ok_bind hchecked, Step.liftM_error_bind hrefused,
        hchecked, hrefused]
      rfl
  · obtain ⟨number, hrefused⟩ := OpcodeTable.checkRoom_of_not_fits hevents
    rw [OpcodeTables.insertModule, Step.liftM_error_bind hrefused, hrefused]
    rfl

theorem Alike.answer_eq (h : Alike i j) (tables tables' : OpcodeTables) :
    i.answer tables = j.answer tables' := by
  rw [Insertion.answer_eq, Insertion.answer_eq, h.firstEvent_eq, h.firstError_eq,
    OpcodeTable.checkRoom_perm h.events_perm, OpcodeTable.checkRoom_perm h.errors_perm]

theorem answers_eq (insertions : List Insertion) (tables tables' : OpcodeTables) :
    answers insertions tables = insertions.map fun i => (i, i.answer tables') := by
  induction insertions generalizing tables with
  | nil => rfl
  | cons i insertions ih =>
    rw [answers, ih, List.map_cons, (Alike.refl i).answer_eq tables tables']

/-- The same insertions succeed or fail in any order, and with the same fault. -/
theorem answers_reordered (h : ReorderedBy Alike insertions insertions') (tables : OpcodeTables) :
    ReorderedBy (fun a b => Alike a.1 b.1 ∧ a.2 = b.2) (answers insertions tables)
      (answers insertions' tables) := by
  rw [answers_eq insertions tables tables, answers_eq insertions' tables tables]
  exact h.map fun i j hij => ⟨hij, hij.answer_eq tables tables⟩

end Reordering

end Insertion

end DisplayClient
