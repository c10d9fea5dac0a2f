import DisplayClient.Opcode.Classify
import DisplayClient.Proofs.Step.Sequencing

/-!
# Where declarations go

Declarations are consistent if they give no number two types (`Consistent`),
and fit a base if every number added to it is an opcode (`Fits`).
A list that fits is placed in order, later declarations over earlier ones
(`get?_placeAll`); a module whose two lists fit is placed in both tables, and
one of which anything does not fit is refused and changes nothing
(`insertModule_of_fits`, `insertModule_of_not_fits`).
-/

namespace DisplayClient

/-- No number is declared with two types. -/
def Declaration.Consistent (ds : List Declaration) : Prop :=
  ∀ d ∈ ds, ∀ d' ∈ ds, d.number = d'.number → d.type = d'.type

instance (ds : List Declaration) : Decidable (Declaration.Consistent ds) :=
  inferInstanceAs (Decidable (∀ d ∈ ds, ∀ d' ∈ ds, d.number = d'.number → d.type = d'.type))

namespace OpcodeTable

open Declaration (Consistent)

/-- Every declared number, added to the base, is an opcode. -/
def Fits (base : UInt8) (declarations : List Declaration) : Prop :=
  ∀ d ∈ declarations, base.toNat + d.number.toNat < tableSize

instance (base : UInt8) (declarations : List Declaration) : Decidable (Fits base declarations) :=
  inferInstanceAs (Decidable (∀ d ∈ declarations, base.toNat + d.number.toNat < tableSize))

theorem Fits.head {base : UInt8} {d : Declaration} {ds : List Declaration}
    (h : Fits base (d :: ds)) : base.toNat + d.number.toNat < tableSize :=
  h d List.mem_cons_self

theorem Fits.tail {base : UInt8} {d : Declaration} {ds : List Declaration}
    (h : Fits base (d :: ds)) : Fits base ds :=
  fun d hd => h d (List.mem_cons_of_mem _ hd)

/-- Numbers are opcodes themselves. -/
theorem fits_zero (ds : List Declaration) : Fits 0 ds := fun d _ => by
  have := d.number.toNat_lt
  simpa using this

/-- The check looks at the highest declared number only. -/
theorem checkRoom_cases (base : UInt8) (ds : List Declaration) :
    (Fits base ds ∧ checkRoom base ds = .ok ()) ∨
    ∃ d ∈ ds, (∀ d' ∈ ds, d'.number.toNat ≤ d.number.toNat) ∧
      tableSize ≤ base.toNat + d.number.toNat ∧
      checkRoom base ds = .error (slotFault base d.number.toNat) := by
  unfold checkRoom
  cases h : highest? ds with
  | none =>
    have hnil : ds = [] := List.map_eq_nil_iff.mp (List.max?_eq_none_iff.mp h)
    subst hnil
    exact .inl ⟨fun d hd => absurd hd List.not_mem_nil, rfl⟩
  | some number =>
    obtain ⟨hmem, hle⟩ := List.max?_eq_some_iff.mp h
    obtain ⟨d, hd, rfl⟩ := List.mem_map.mp hmem
    have hmax : ∀ d' ∈ ds, d'.number.toNat ≤ d.number.toNat :=
      fun d' hd' => hle _ (List.mem_map_of_mem hd')
    by_cases hroom : base.toNat + d.number.toNat < tableSize
    · refine .inl ⟨fun d' hd' => ?_, if_pos hroom⟩
      have := hmax d' hd'
      omega
    · exact .inr ⟨d, hd, hmax, Nat.le_of_not_lt hroom, if_neg hroom⟩

theorem checkRoom_of_fits {base : UInt8} {ds : List Declaration} (h : Fits base ds) :
    checkRoom base ds = .ok () := by
  rcases checkRoom_cases base ds with ⟨-, hok⟩ | ⟨d, hd, -, hle, -⟩
  · exact hok
  · exact absurd (h d hd) (Nat.not_lt.mpr hle)

theorem checkRoom_of_not_fits {base : UInt8} {ds : List Declaration} (h : ¬ Fits base ds) :
    ∃ number, checkRoom base ds = .error (slotFault base number) := by
  rcases checkRoom_cases base ds with ⟨hfits, -⟩ | ⟨d, -, -, -, herror⟩
  · exact absurd hfits h
  · exact ⟨_, herror⟩

/-- The table after one declaration. -/
def place (base : UInt8) (table : OpcodeTable) (d : Declaration) : OpcodeTable :=
  (insert base d.number d.type table).state

theorem insert_result {base number : UInt8} (h : base.toNat + number.toNat < tableSize)
    (type : TypeTag) (table : OpcodeTable) : (insert base number type table).result = .ok () := by
  rw [insert_of_lt h]
  simp only
  split <;> rfl

theorem get?_eq_of_slot {slot : Fin tableSize} {opcode : UInt8} (h : slot = slotOf opcode)
    (table : OpcodeTable) : table.get? opcode = table.slots[slot] := by
  subst h
  rfl

theorem get?_set (table : OpcodeTable) (slot : Fin tableSize) (type : TypeTag) (opcode : UInt8) :
    (table.set slot type).get? opcode =
      if slot = slotOf opcode then some type else table.get? opcode := by
  split
  · subst slot
    simp [get?, set]
  · rename_i hne
    simp only [get?, set, Fin.getElem_fin]
    exact Vector.getElem_set_ne _ _ fun heq => hne (Fin.ext heq)

/-- A declaration that fits takes its slot, whatever the slot held, and no other. -/
theorem get?_place {base : UInt8} {d : Declaration}
    (h : base.toNat + d.number.toNat < tableSize) (table : OpcodeTable) (opcode : UInt8) :
    (place base table d).get? opcode =
      if base.toNat + d.number.toNat = opcode.toNat then some d.type else table.get? opcode := by
  have hslot : (⟨base.toNat + d.number.toNat, h⟩ : Fin tableSize) = slotOf opcode ↔
      base.toNat + d.number.toNat = opcode.toNat := Fin.ext_iff
  rw [place, insert_of_lt h]
  simp only
  split
  · -- The slot holds the type already, so the table stays as it is.
    rename_i hsame
    split
    · rename_i heq
      exact (get?_eq_of_slot (hslot.mpr heq) table).trans hsame
    · rfl
  · simp only [get?_set, hslot]

/-- The table after a list of declarations. -/
def placeAll (base : UInt8) (ds : List Declaration) (table : OpcodeTable) : OpcodeTable :=
  ds.foldl (place base) table

/-- The type that a list of declarations gives an opcode: that of the last one for it. -/
def lastAt? (base : UInt8) : List Declaration → UInt8 → Option TypeTag
  | [], _ => none
  | d :: ds, opcode =>
    (lastAt? base ds opcode).or
      (if base.toNat + d.number.toNat = opcode.toNat then some d.type else none)

theorem get?_placeAll {base : UInt8} {ds : List Declaration} (h : Fits base ds)
    (table : OpcodeTable) (opcode : UInt8) :
    (placeAll base ds table).get? opcode = (lastAt? base ds opcode).or (table.get? opcode) := by
  induction ds generalizing table with
  | nil => rfl
  | cons d ds ih =>
    rw [placeAll, List.foldl_cons, ← placeAll, ih h.tail, get?_place h.head, lastAt?]
    cases lastAt? base ds opcode with
    | some type => rfl
    | none =>
      simp only [Option.none_or]
      split <;> rfl

theorem lastAt?_eq_none_iff {base : UInt8} {ds : List Declaration} {opcode : UInt8} :
    lastAt? base ds opcode = none ↔
      ∀ d ∈ ds, base.toNat + d.number.toNat ≠ opcode.toNat := by
  induction ds with
  | nil => simp [lastAt?]
  | cons d ds ih => simp [lastAt?, ih, and_comm]

/-- The type comes from a declaration for the opcode. -/
theorem mem_of_lastAt? {base : UInt8} {ds : List Declaration} {opcode : UInt8} {type : TypeTag}
    (h : lastAt? base ds opcode = some type) :
    ∃ d ∈ ds, base.toNat + d.number.toNat = opcode.toNat ∧ d.type = type := by
  induction ds with
  | nil => cases h
  | cons d ds ih =>
    rw [lastAt?, Option.or_eq_some_iff] at h
    rcases h with h | ⟨-, h⟩
    · obtain ⟨d', hd', hslot, htype⟩ := ih h
      exact ⟨d', List.mem_cons_of_mem _ hd', hslot, htype⟩
    · split at h
      · rename_i hslot
        exact ⟨d, List.mem_cons_self, hslot, Option.some.inj h⟩
      · cases h

theorem forM_insert {base : UInt8} {ds : List Declaration} (h : Fits base ds)
    (table : OpcodeTable) :
    ∃ lines, (ds.forM fun d => insert base d.number d.type) table =
      ⟨.ok (), placeAll base ds table, lines⟩ := by
  induction ds generalizing table with
  | nil => exact ⟨[], rfl⟩
  | cons d ds ih =>
    obtain ⟨lines, hrest⟩ := ih h.tail (place base table d)
    have hfirst : insert base d.number d.type table =
        ⟨.ok (), place base table d, (insert base d.number d.type table).log⟩ := by
      rw [← insert_result h.head d.type table, place]
    refine ⟨(insert base d.number d.type table).log ++ lines, ?_⟩
    exact (Step.bind_of_ok hfirst).trans (by rw [hrest]; rfl)

theorem lastAt?_of_mem {base : UInt8} {ds : List Declaration} (hds : Consistent ds)
    {d : Declaration} (hd : d ∈ ds) {opcode : UInt8}
    (hslot : base.toNat + d.number.toNat = opcode.toNat) :
    lastAt? base ds opcode = some d.type := by
  cases h : lastAt? base ds opcode with
  | none => exact absurd hslot (lastAt?_eq_none_iff.mp h d hd)
  | some type =>
    obtain ⟨d', hd', hslot', rfl⟩ := mem_of_lastAt? h
    have hnumber : d'.number = d.number := UInt8.toNat_inj.mp (by omega)
    rw [hds d' hd' d hd hnumber]

/-- Registering every declaration of a list that fits. -/
theorem insertAll_of_fits {base : UInt8} {ds : List Declaration} (h : Fits base ds)
    (table : OpcodeTable) :
    ∃ lines, insertAll base ds table = ⟨.ok (), placeAll base ds table, lines⟩ := by
  rw [insertAll, Step.liftM_ok_bind (checkRoom_of_fits h)]
  exact forM_insert h table

end OpcodeTable

namespace OpcodeTables

open OpcodeTable

/-- The tables after a module's declarations. -/
def place (firstEvent : UInt8) (events : List Declaration) (firstError : UInt8)
    (errors : List Declaration) (tables : OpcodeTables) : OpcodeTables :=
  ⟨tables.events.placeAll firstEvent events, tables.errors.placeAll firstError errors⟩

variable {firstEvent firstError : UInt8} {events errors : List Declaration}

theorem insertModule_of_fits (hevents : Fits firstEvent events) (herrors : Fits firstError errors)
    (tables : OpcodeTables) :
    ∃ lines, insertModule firstEvent events firstError errors tables =
      ⟨.ok (), tables.place firstEvent events firstError errors, lines⟩ := by
  obtain ⟨eventLines, hplaceEvents⟩ := insertAll_of_fits hevents tables.events
  obtain ⟨errorLines, hplaceErrors⟩ := insertAll_of_fits herrors tables.errors
  refine ⟨eventLines ++ errorLines, ?_⟩
  rw [insertModule, Step.liftM_ok_bind (checkRoom_of_fits hevents),
    Step.liftM_ok_bind (checkRoom_of_fits herrors), Step.bind_apply]
  simp only [onEvents, onErrors, Step.onPart_apply, hplaceEvents, hplaceErrors]
  rfl

/-- What does not fit in one of the tables is kept out of both. -/
theorem insertModule_of_not_fits (h : ¬ (Fits firstEvent events ∧ Fits firstError errors))
    (tables : OpcodeTables) :
    ∃ base number, insertModule firstEvent events firstError errors tables =
      ⟨.error (slotFault base number), tables, []⟩ := by
  by_cases hevents : Fits firstEvent events
  · obtain ⟨number, hcheck⟩ := checkRoom_of_not_fits fun herrors => h ⟨hevents, herrors⟩
    refine ⟨firstError, number, ?_⟩
    rw [insertModule, Step.liftM_ok_bind (checkRoom_of_fits hevents),
      Step.liftM_error_bind hcheck]
  · obtain ⟨number, hcheck⟩ := checkRoom_of_not_fits hevents
    refine ⟨firstEvent, number, ?_⟩
    rw [insertModule, Step.liftM_error_bind hcheck]

end OpcodeTables

end DisplayClient
