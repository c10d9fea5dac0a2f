import DisplayClient.Proofs.Opcode.Repetition
import DisplayClient.Proofs.Step.Moments

/-!
# What is told of replaced types

When a registration is made, a type may give way to another in a slot of a
table, and a line tells of that (`OpcodeTable.replaced`). Such lines are all
that registrations log, one for each moment in which there is something to tell,
whether they are made one by one, as a list or for a module
(`OpcodeTable.Call.tells`, `Insertion.tells`). When an insertion is made again,
there is nothing to tell, unless it gives a number two types
(`Insertion.log_repeated`).
-/

namespace DisplayClient

namespace OpcodeTable

/-! ## One registration -/

/-- The line that tells of a slot in which one type gave way to another. -/
def replacedAt? (before after : OpcodeTable) (slot : Fin tableSize) : Option LogLine :=
  match before.slots.get slot, after.slots.get slot with
  | some old, some new => if old = new then none else some (.slotReplaced slot new old)
  | _, _ => none

/-- The lines that tell of all such slots. -/
def replaced (before after : OpcodeTable) : List LogLine :=
  (List.finRange tableSize).filterMap (replacedAt? before after)

theorem mem_replaced_iff {before after : OpcodeTable} {line : LogLine} :
    line ∈ replaced before after ↔
      ∃ (slot : Fin tableSize) (old new : TypeTag), before.slots.get slot = some old ∧
        after.slots.get slot = some new ∧ old ≠ new ∧ line = .slotReplaced slot new old := by
  rw [replaced, List.mem_filterMap]
  constructor
  · rintro ⟨slot, -, hline⟩
    rw [replacedAt?] at hline
    split at hline
    next old new hold hnew =>
      split at hline <;> cases hline
      next hne => exact ⟨slot, old, new, hold, hnew, hne, rfl⟩
    next => cases hline
  · rintro ⟨slot, old, new, hold, hnew, hne, rfl⟩
    refine ⟨slot, List.mem_finRange slot, ?_⟩
    rw [replacedAt?, hold, hnew]
    exact if_neg hne

theorem replacedAt?_of_eq {before after : OpcodeTable} {slot : Fin tableSize}
    (h : before.slots.get slot = after.slots.get slot) : replacedAt? before after slot = none := by
  rw [replacedAt?, h]
  cases after.slots.get slot with
  | none => rfl
  | some type => exact if_pos rfl

theorem replaced_self (table : OpcodeTable) : replaced table table = [] :=
  List.filterMap_eq_nil_iff.mpr fun _ _ => replacedAt?_of_eq rfl

/-- Only one slot is different. -/
theorem replaced_of_others {before after : OpcodeTable} {slot : Fin tableSize}
    (h : ∀ other, other ≠ slot → before.slots.get other = after.slots.get other) :
    replaced before after = (replacedAt? before after slot).toList := by
  obtain ⟨below, above, hsplit⟩ := List.append_of_mem (List.mem_finRange slot)
  have hnodup : (below ++ slot :: above).Nodup := hsplit ▸ List.nodup_finRange tableSize
  have hnotMem : slot ∉ below ++ above :=
    (List.nodup_cons.mp (List.perm_middle.nodup_iff.mp hnodup)).1
  have hnil {others : List (Fin tableSize)} (hothers : slot ∉ others) :
      others.filterMap (replacedAt? before after) = [] :=
    List.filterMap_eq_nil_iff.mpr fun other hother =>
      replacedAt?_of_eq (h other fun heq => hothers (heq ▸ hother))
  rw [List.mem_append, not_or] at hnotMem
  rw [replaced, hsplit, List.filterMap_append, List.filterMap_cons, hnil hnotMem.1,
    hnil hnotMem.2]
  cases replacedAt? before after slot <;> rfl

theorem replaced_set {table : OpcodeTable} {slot : Fin tableSize} {type : TypeTag}
    (h : table.slots.get slot ≠ some type) :
    replaced table (table.set slot type) = replacement slot type (table.slots.get slot) := by
  have hothers (other : Fin tableSize) (hne : other ≠ slot) :
      table.slots.get other = (table.set slot type).slots.get other :=
    (Vector.getElem_set_ne slot.isLt other.isLt fun heq => hne (Fin.ext heq.symm)).symm
  have hslot : (table.set slot type).slots.get slot = some type :=
    Vector.getElem_set_self slot.isLt
  rw [replaced_of_others hothers, replacedAt?, hslot]
  cases hold : table.slots.get slot with
  | none => rfl
  | some old =>
    have hne : old ≠ type := fun heq => h (by rw [hold, heq])
    simp only [hne, if_false]
    rfl

/-- A registration tells of the type that gave way to its own. -/
theorem log_insert (p : UInt8 × Declaration) (table : OpcodeTable) :
    (insert p.1 p.2.number p.2.type table).log = replaced table (table.placeAt p) := by
  rw [placeAt, place]
  rcases Nat.lt_or_ge (p.1.toNat + p.2.number.toNat) tableSize with hlt | hle
  · rw [insert_of_lt hlt]
    simp only
    split
    next => exact (replaced_self table).symm
    next hother => exact (replaced_set hother).symm
  · rw [insert_of_le hle]
    exact (replaced_self table).symm

/-- There is nothing to tell of an empty slot, or of one that has the type already. -/
theorem log_insert_of_get? {p : UInt8 × Declaration} {table : OpcodeTable} {opcode : UInt8}
    (hslot : p.1.toNat + p.2.number.toNat = opcode.toNat)
    (h : table.get? opcode = none ∨ table.get? opcode = some p.2.type) :
    (insert p.1 p.2.number p.2.type table).log = [] := by
  have hlt : p.1.toNat + p.2.number.toNat < tableSize := hslot ▸ opcode.toNat_lt
  rw [get?_of_toNat hslot hlt] at h
  rw [insert_of_lt hlt]
  rcases h with hnone | hsame
  · simp only [hnone, replacement]
    split <;> rfl
  · simp only [hsame, if_true]

/-- It changes one slot at most. -/
theorem length_replaced_placeAt (p : UInt8 × Declaration) (table : OpcodeTable) :
    (replaced table (table.placeAt p)).length ≤ 1 := by
  rw [← log_insert]
  rcases Nat.lt_or_ge (p.1.toNat + p.2.number.toNat) tableSize with hlt | hle
  · rw [insert_of_lt hlt]
    simp only
    split
    next => exact Nat.zero_le 1
    next => cases table.slots[(⟨_, hlt⟩ : Fin tableSize)] <;> simp [replacement]
  · rw [insert_of_le hle]
    exact Nat.zero_le 1

/-! ## Calls -/

theorem log_insertEach {base : UInt8} {ds : List Declaration} (h : Fits base ds)
    (table : OpcodeTable) :
    (insertEach base ds table).log =
      (moments placeAt (ds.map fun d => (base, d)) table).flatMap fun moment =>
        replaced moment.1 moment.2 := by
  induction ds generalizing table with
  | nil => rfl
  | cons d ds ih =>
    have hfirst : insert base d.number d.type table =
        ⟨.ok (), table.placeAt (base, d), replaced table (table.placeAt (base, d))⟩ := by
      rw [← insert_result h.head d.type table, ← log_insert]
      rfl
    have hrest : (insertEach base (d :: ds) table).log =
        replaced table (table.placeAt (base, d)) ++
          (insertEach base ds (table.placeAt (base, d))).log :=
      congrArg Outcome.log (Step.bind_of_ok hfirst)
    rw [hrest, ih h.tail]
    rfl

theorem Call.tells (c : Call) (table : OpcodeTable) :
    Tells placeAt replaced (c.made table) table (c.perform table).result (c.perform table).state
      (c.perform table).log := by
  have hmade (hok : (c.perform table).result = .ok ()) : c.made table = c.registrations := by
    rw [made, hok]
  have hquiet {fault : Fault} (hrefused : c.perform table = ⟨.error fault, table, []⟩) :
      Tells placeAt replaced (c.made table) table (c.perform table).result
        (c.perform table).state (c.perform table).log := by
    rw [made, hrefused]
    exact .none table _
  cases c with
  | one base number type =>
    rcases Nat.lt_or_ge (base.toNat + number.toNat) tableSize with hlt | hle
    · have hok : ((Call.one base number type).perform table).result = .ok () :=
        insert_result hlt type table
      rw [hok]
      refine .of_ok (Call.state_perform _ table) ?_
      rw [hmade hok]
      exact (log_insert (base, ⟨number, type⟩) table).trans (List.append_nil _).symm
    · exact hquiet (insert_of_le hle type table)
  | all base ds =>
    by_cases hfits : Fits base ds
    · have hok : ((Call.all base ds).perform table).result = .ok () :=
        (insertAll_result_iff table).mpr hfits
      rw [hok]
      refine .of_ok (Call.state_perform _ table) ?_
      rw [hmade hok]
      have heach := congrArg Outcome.log (insertAll_eq_insertEach hfits table)
      exact heach.trans (log_insertEach hfits table)
    · obtain ⟨d, -, -, hrefused⟩ := insertAll_of_not_fits hfits table
      exact hquiet hrefused

end OpcodeTable

/-! ## Modules -/

namespace OpcodeTables

/-- Makes a registration in one of the tables. -/
def placeAt (tables : OpcodeTables) : DeclaredList × UInt8 × Declaration → OpcodeTables
  | (.events, p) => { tables with events := tables.events.placeAt p }
  | (.errors, p) => { tables with errors := tables.errors.placeAt p }

/-- The lines that tell of the slots in which one type gave way to another. -/
def replaced (before after : OpcodeTables) : List LogLine :=
  before.events.replaced after.events ++ before.errors.replaced after.errors

theorem replaced_self (tables : OpcodeTables) : replaced tables tables = [] := by
  rw [replaced, OpcodeTable.replaced_self, OpcodeTable.replaced_self, List.nil_append]

/-- While one table is written, the other has nothing to tell. -/
theorem replaced_events (errors before after : OpcodeTable) :
    replaced ⟨before, errors⟩ ⟨after, errors⟩ = before.replaced after := by
  rw [replaced, OpcodeTable.replaced_self, List.append_nil]

theorem replaced_errors (events before after : OpcodeTable) :
    replaced ⟨events, before⟩ ⟨events, after⟩ = before.replaced after := by
  rw [replaced, OpcodeTable.replaced_self, List.nil_append]

section Parts

variable {α : Type} {ps : List (UInt8 × Declaration)} {before after : OpcodeTable}
  {result : Except Fault α} {lines : List LogLine}

theorem tells_events
    (h : Tells OpcodeTable.placeAt OpcodeTable.replaced ps before result after lines)
    (errors : OpcodeTable) :
    Tells placeAt replaced (ps.map fun p => (DeclaredList.events, p)) ⟨before, errors⟩ result
      ⟨after, errors⟩ lines :=
  h.map (f := fun table => (⟨table, errors⟩ : OpcodeTables)) (fun _ _ => rfl)
    (replaced_events errors)

theorem tells_errors
    (h : Tells OpcodeTable.placeAt OpcodeTable.replaced ps before result after lines)
    (events : OpcodeTable) :
    Tells placeAt replaced (ps.map fun p => (DeclaredList.errors, p)) ⟨events, before⟩ result
      ⟨events, after⟩ lines :=
  h.map (f := fun table => (⟨events, table⟩ : OpcodeTables)) (fun _ _ => rfl)
    (replaced_errors events)

end Parts

end OpcodeTables

namespace Insertion

open OpcodeTable (insertAll)

/-- Makes the insertion. -/
def perform (i : Insertion) : Step OpcodeTables Unit :=
  OpcodeTables.insertModule i.firstEvent i.events i.firstError i.errors

/-- The single registrations that the insertion makes: its events and then its errors, or none if
any of them does not fit. -/
def writes (i : Insertion) : List (DeclaredList × UInt8 × Declaration) :=
  ((i.placements eventList).map fun p => (.events, p)) ++
    (i.placements errorList).map fun p => (.errors, p)

variable {i : Insertion} {tables : OpcodeTables}

theorem placements_of_fits (h : i.Fits) (list : Insertion → UInt8 × List Declaration) :
    i.placements list = (list i).2.map fun d => ((list i).1, d) := if_pos h

theorem placements_of_not_fits (h : ¬ i.Fits) (list : Insertion → UInt8 × List Declaration) :
    i.placements list = [] := if_neg h

/-- An insertion that fits registers its two lists, each in its table. -/
theorem perform_of_fits (h : i.Fits) (tables : OpcodeTables) :
    i.perform tables =
      ⟨.ok (), ⟨(insertAll i.firstEvent i.events tables.events).state,
          (insertAll i.firstError i.errors tables.errors).state⟩,
        (insertAll i.firstEvent i.events tables.events).log ++
          (insertAll i.firstError i.errors tables.errors).log⟩ := by
  obtain ⟨eventLines, hevents⟩ := OpcodeTable.insertAll_of_fits h.1 tables.events
  obtain ⟨errorLines, herrors⟩ := OpcodeTable.insertAll_of_fits h.2 tables.errors
  rw [perform, OpcodeTables.insertModule,
    Step.liftM_ok_bind (OpcodeTable.checkRoom_of_fits h.1),
    Step.liftM_ok_bind (OpcodeTable.checkRoom_of_fits h.2), Step.bind_apply]
  simp only [OpcodeTables.onEvents, OpcodeTables.onErrors, Step.onPart_apply, hevents, herrors]

theorem perform_of_not_fits (h : ¬ i.Fits) (tables : OpcodeTables) :
    ∃ base number, i.perform tables =
      ⟨.error (OpcodeTable.slotFault base number), tables, []⟩ :=
  OpcodeTables.insertModule_of_not_fits h tables

theorem perform_eq_ok_iff : (i.perform tables).result = .ok () ↔ i.Fits := by
  by_cases h : i.Fits
  · rw [perform_of_fits h]
    exact ⟨fun _ => h, fun _ => rfl⟩
  · obtain ⟨base, number, hrefused⟩ := perform_of_not_fits h tables
    rw [hrefused]
    refine ⟨fun hok => ?_, fun hfits => absurd hfits h⟩
    cases hok

/-- One of the lists of an insertion that fits, in its own table. -/
theorem tells_list (list : UInt8 × List Declaration) (hfits : OpcodeTable.Fits list.1 list.2)
    (table : OpcodeTable) :
    Tells OpcodeTable.placeAt OpcodeTable.replaced (list.2.map fun d => (list.1, d)) table
      (.ok () : Except Fault Unit) (insertAll list.1 list.2 table).state
      (insertAll list.1 list.2 table).log := by
  have hok : ((OpcodeTable.Call.all list.1 list.2).perform table).result = .ok () :=
    (OpcodeTable.insertAll_result_iff table).mpr hfits
  have htells := (OpcodeTable.Call.all list.1 list.2).tells table
  rw [OpcodeTable.Call.made, hok] at htells
  exact htells

theorem tells (i : Insertion) (tables : OpcodeTables) :
    Tells OpcodeTables.placeAt OpcodeTables.replaced i.writes tables (i.perform tables).result
      (i.perform tables).state (i.perform tables).log := by
  by_cases h : i.Fits
  · rw [perform_of_fits h, writes, placements_of_fits h, placements_of_fits h]
    have hevents := OpcodeTables.tells_events (tells_list i.eventList h.1 tables.events)
      tables.errors
    have herrors := OpcodeTables.tells_errors (tells_list i.errorList h.2 tables.errors)
      (insertAll i.firstEvent i.events tables.events).state
    exact hevents.append herrors
  · obtain ⟨base, number, hrefused⟩ := perform_of_not_fits h tables
    rw [hrefused, writes, placements_of_not_fits h, placements_of_not_fits h]
    exact .none tables _

/-- There is nothing to tell of an insertion that is made again, if it gives no number two types. -/
theorem log_repeated (hevents : Declaration.Consistent i.events)
    (herrors : Declaration.Consistent i.errors) (tables : OpcodeTables) :
    (i.perform (i.apply tables)).log = [] := by
  refine (i.tells (i.apply tables)).eq_nil_of_fixed (fun w hw => ?_)
    (OpcodeTables.replaced_self _)
  by_cases h : i.Fits
  · rw [writes, placements_of_fits h, placements_of_fits h, List.mem_append, List.mem_map,
      List.mem_map] at hw
    rw [apply_of_fits h.1 h.2, OpcodeTables.place]
    rcases hw with ⟨p, hp, rfl⟩ | ⟨p, hp, rfl⟩
    · obtain ⟨d, hd, rfl⟩ := List.mem_map.mp hp
      exact congrArg (fun table => (⟨table, _⟩ : OpcodeTables))
        (OpcodeTable.placeAt_placeAll h.1 hevents hd tables.events)
    · obtain ⟨d, hd, rfl⟩ := List.mem_map.mp hp
      exact congrArg (fun table => (⟨_, table⟩ : OpcodeTables))
        (OpcodeTable.placeAt_placeAll h.2 herrors hd tables.errors)
  · rw [writes, placements_of_not_fits h, placements_of_not_fits h] at hw
    cases hw

end Insertion

end DisplayClient
