import DisplayClient.Proofs.Opcode.LastWriter

/-!
# The length of a table

A table keeps its length beside its slots and never looks for it there. It is
one more than the highest taken opcode all the same, after any calls
(`OpcodeTable.Measured.run`), and from that follows what else it says of the
slots (`Measured.sized`). A registration takes a slot or none, so that no call
leaves a table with less than it had (`Call.grows`).
-/

namespace DisplayClient.OpcodeTable

/-- An opcode by its number. -/
theorem get?_of_toNat {n : Nat} {opcode : UInt8} (h : n = opcode.toNat) (hlt : n < tableSize)
    (table : OpcodeTable) : table.get? opcode = table.slots[(⟨n, hlt⟩ : Fin tableSize)] :=
  get?_eq_of_slot (Fin.ext h) table

/-! ## One registration -/

/-- Every taken opcode is below the length, and the highest opcode below it is taken. -/
structure Measured (table : OpcodeTable) : Prop where
  lt_length {opcode : UInt8} :
    (table.get? opcode).isSome = true → opcode.toNat < table.length
  last_taken : table.length = 0 ∨
    ∃ highest, (table.get? highest).isSome = true ∧ table.length = highest.toNat + 1

/-- What is taken before is taken after, and nothing that is counted gets less. -/
structure Grows (before after : OpcodeTable) : Prop where
  taken {opcode : UInt8} :
    (before.get? opcode).isSome = true → (after.get? opcode).isSome = true
  length_le : before.length ≤ after.length
  count_le : before.count ≤ after.count

theorem Grows.refl (table : OpcodeTable) : Grows table table := ⟨id, Nat.le_refl _, Nat.le_refl _⟩

theorem Grows.trans {table table' table'' : OpcodeTable} (h : Grows table table')
    (h' : Grows table' table'') : Grows table table'' where
  taken htaken := h'.taken (h.taken htaken)
  length_le := Nat.le_trans h.length_le h'.length_le
  count_le := Nat.le_trans h.count_le h'.count_le

variable {table : OpcodeTable}

/-- A registration leaves a table alone or puts its type into a slot. -/
theorem placeAt_cases (p : UInt8 × Declaration) (table : OpcodeTable) :
    table.placeAt p = table ∨ ∃ slot, table.placeAt p = table.set slot p.2.type := by
  rcases Nat.lt_or_ge (p.1.toNat + p.2.number.toNat) tableSize with hlt | hle
  · rw [placeAt, place_of_lt hlt, write]
    split
    · exact .inl rfl
    · exact .inr ⟨_, rfl⟩
  · exact .inl (place_of_le hle table)

theorem isSome_get?_set (table : OpcodeTable) (slot : Fin tableSize) (type : TypeTag)
    (opcode : UInt8) :
    ((table.set slot type).get? opcode).isSome = true ↔
      slot = slotOf opcode ∨ (table.get? opcode).isSome = true := by
  rw [get?_set]
  split
  next h => simp [h]
  next h => simp [h]

theorem Measured.set (h : table.Measured) (slot : Fin tableSize) (type : TypeTag) :
    (table.set slot type).Measured := by
  have hlength : (table.set slot type).length = max table.length (slot + 1) := rfl
  constructor
  · intro opcode htaken
    rw [hlength]
    rcases (isSome_get?_set table slot type opcode).mp htaken with rfl | hbefore
    · have : (slotOf opcode).val = opcode.toNat := rfl
      omega
    · have := h.lt_length hbefore
      omega
  · -- The highest taken opcode is the old one, or the slot lies above it.
    have hslot : slotOf (UInt8.ofNat slot.val) = slot :=
      Fin.ext (UInt8.toNat_ofNat_of_lt' slot.isLt)
    rcases Nat.lt_or_ge slot.val table.length with hlt | hge
    · rcases h.last_taken with hzero | ⟨highest, htaken, hhighest⟩
      · omega
      · refine .inr ⟨highest, ?_, by omega⟩
        exact (isSome_get?_set table slot type highest).mpr (.inr htaken)
    · refine .inr ⟨UInt8.ofNat slot.val, ?_, ?_⟩
      · exact (isSome_get?_set table slot type _).mpr (.inl hslot.symm)
      · rw [hlength, UInt8.toNat_ofNat_of_lt' slot.isLt]
        omega

theorem grows_set (table : OpcodeTable) (slot : Fin tableSize) (type : TypeTag) :
    Grows table (table.set slot type) where
  taken htaken := (isSome_get?_set table slot type _).mpr (.inr htaken)
  length_le := Nat.le_max_left _ _
  count_le := by
    have hslots : (table.set slot type).slots.toList = table.slots.toList.set slot (some type) :=
      Vector.toList_set slot.isLt
    rw [count, count, hslots, List.countP_set (by simp)]
    simp only [Option.isSome_some, if_true]
    split <;> omega

theorem Measured.placeAt (h : table.Measured) (p : UInt8 × Declaration) :
    (table.placeAt p).Measured := by
  rcases placeAt_cases p table with hsame | ⟨slot, hset⟩
  · rwa [hsame]
  · rw [hset]
    exact h.set slot p.2.type

theorem grows_placeAt (p : UInt8 × Declaration) (table : OpcodeTable) :
    Grows table (table.placeAt p) := by
  rcases placeAt_cases p table with hsame | ⟨slot, hset⟩
  · rw [hsame]
    exact .refl table
  · rw [hset]
    exact grows_set table slot p.2.type

/-! ## Many registrations -/

theorem Measured.foldl (h : table.Measured) (ps : List (UInt8 × Declaration)) :
    (ps.foldl OpcodeTable.placeAt table).Measured := by
  induction ps generalizing table with
  | nil => exact h
  | cons p ps ih => exact ih (h.placeAt p)

theorem grows_foldl (ps : List (UInt8 × Declaration)) (table : OpcodeTable) :
    Grows table (ps.foldl placeAt table) := by
  induction ps generalizing table with
  | nil => exact .refl table
  | cons p ps ih => exact (grows_placeAt p table).trans (ih (table.placeAt p))

theorem Call.grows (c : Call) (table : OpcodeTable) : Grows table (c.perform table).state := by
  rw [c.state_perform]
  exact grows_foldl (c.made table) table

theorem measured_empty : empty.Measured where
  lt_length htaken := by simp [get?_empty] at htaken
  last_taken := .inl rfl

theorem Measured.run (h : table.Measured) (calls : List Call) : (run calls table).Measured := by
  rw [run_eq_foldl]
  exact h.foldl (allMade calls table)

/-! ## What the length says -/

/-- The length and the number of taken slots are what a look at all slots gives. -/
structure Sized (table : OpcodeTable) : Prop where
  /-- No slot is taken, or the length is one more than the highest that is. -/
  length_cases : ((∀ opcode, table.get? opcode = none) ∧ table.length = 0) ∨
    ∃ highest, (table.get? highest).isSome = true ∧
      (∀ opcode, (table.get? opcode).isSome = true → opcode ≤ highest) ∧
      table.length = highest.toNat + 1
  isEmpty_iff : table.isEmpty = true ↔ table.count = 0
  count_le : table.count ≤ table.length
  length_le : table.length ≤ tableSize
  get?_of_length_le {opcode : UInt8} : table.length ≤ opcode.toNat → table.get? opcode = none

theorem Measured.get?_of_length_le (h : table.Measured) {opcode : UInt8}
    (hopcode : table.length ≤ opcode.toNat) : table.get? opcode = none := by
  cases htype : table.get? opcode with
  | none => rfl
  | some type =>
    have htaken : (table.get? opcode).isSome = true := by rw [htype]; rfl
    have := h.lt_length htaken
    omega

theorem Measured.length_le (h : table.Measured) : table.length ≤ tableSize := by
  rcases h.last_taken with hzero | ⟨highest, -, hhighest⟩
  · omega
  · have hlt : highest.toNat < tableSize := highest.toNat_lt
    omega

/-- Only slots below the length are taken. -/
theorem Measured.count_le_length (h : table.Measured) : table.count ≤ table.length := by
  have hrest : (table.slots.toList.drop table.length).countP Option.isSome = 0 := by
    rw [List.countP_eq_zero]
    intro slot? hmem
    obtain ⟨i, hi, rfl⟩ := List.mem_drop_iff_getElem.mp hmem
    have hlt : table.length + i < tableSize := by simpa [Nat.add_comm] using hi
    have hopcode : (UInt8.ofNat (table.length + i)).toNat = table.length + i :=
      UInt8.toNat_ofNat_of_lt' hlt
    have hnone : table.get? (UInt8.ofNat (table.length + i)) = none :=
      h.get?_of_length_le (by omega)
    rw [get?_of_toNat hopcode.symm hlt] at hnone
    simpa using hnone
  calc table.count
      = (table.slots.toList.take table.length ++
          table.slots.toList.drop table.length).countP Option.isSome := by
        rw [List.take_append_drop, count]
    _ = (table.slots.toList.take table.length).countP Option.isSome := by
        rw [List.countP_append, hrest, Nat.add_zero]
    _ ≤ table.length := Nat.le_trans List.countP_le_length (List.length_take_le _ _)

theorem get?_of_count_eq_zero (h : table.count = 0) (opcode : UInt8) :
    table.get? opcode = none := by
  have hmem : table.get? opcode ∈ table.slots.toList := by simp [get?]
  rw [count, List.countP_eq_zero] at h
  simpa using h _ hmem

theorem Measured.sized (h : table.Measured) : table.Sized where
  length_cases := by
    rcases h.last_taken with hzero | ⟨highest, htaken, hhighest⟩
    · exact .inl ⟨fun opcode => h.get?_of_length_le (by omega), hzero⟩
    · refine .inr ⟨highest, htaken, fun opcode hopcode => ?_, hhighest⟩
      have := h.lt_length hopcode
      rw [UInt8.le_iff_toNat_le]
      omega
  isEmpty_iff := by
    rw [isEmpty, beq_iff_eq]
    constructor
    · intro hzero
      have := h.count_le_length
      omega
    · intro hcount
      rcases h.last_taken with hzero | ⟨highest, htaken, -⟩
      · exact hzero
      · rw [get?_of_count_eq_zero hcount] at htaken
        cases htaken
  count_le := h.count_le_length
  length_le := h.length_le
  get?_of_length_le := h.get?_of_length_le

/-- After any calls, whether they succeed or fail, the length of a table and the number of its taken
slots are what a look at all slots gives; and no call, on whichever table, empties a taken slot,
or makes the length or that number less. -/
theorem length_measures_slots :
    (∀ calls : List Call, (run calls empty).Sized) ∧
      ∀ (c : Call) (table : OpcodeTable), Grows table (c.perform table).state :=
  ⟨fun calls => (measured_empty.run calls).sized, Call.grows⟩

end DisplayClient.OpcodeTable
