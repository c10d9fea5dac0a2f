import DisplayClient.Proofs.Opcode.Extent

/-!
# Registering again

To make registrations again changes nothing, not even if they contradict each
other and every one of them is written again
(`OpcodeTable.foldl_placeAt_foldl_placeAt`, `Insertion.apply_apply`). That the
types come out the same is clear from the last registration for each opcode. The
length takes more: a table may be shorter than its slots ask for, as nothing is
known of it here, and then grows with the first write above its length
(`length_foldl_cases`, `lt_length_or_unwritten`).
-/

namespace DisplayClient

namespace OpcodeTable

theorem ext_get? {table table' : OpcodeTable}
    (h : ∀ opcode, table.get? opcode = table'.get? opcode) (hlength : table.length = table'.length) :
    table = table' := by
  have hslots : table.slots = table'.slots := by
    refine Vector.ext fun i hi => ?_
    have hopcode : i = (UInt8.ofNat i).toNat := (UInt8.toNat_ofNat_of_lt' hi).symm
    have hget := h (UInt8.ofNat i)
    rwa [get?_of_toNat hopcode hi, get?_of_toNat hopcode hi] at hget
  rw [OpcodeTable.mk.injEq]
  exact ⟨hslots, hlength⟩

variable {table : OpcodeTable}

/-- A type comes to an opcode that has it. -/
theorem placeAt_of_get? {p : UInt8 × Declaration} {opcode : UInt8}
    (hslot : p.1.toNat + p.2.number.toNat = opcode.toNat)
    (h : table.get? opcode = some p.2.type) : table.placeAt p = table := by
  have hlt : p.1.toNat + p.2.number.toNat < tableSize := hslot ▸ opcode.toNat_lt
  rw [get?_of_toNat hslot hlt] at h
  rw [placeAt, place, insert_of_lt hlt]
  simp only [h, if_true]

/-- The length is what it was, or one more than an opcode that got another type. -/
theorem length_placeAt_cases (p : UInt8 × Declaration) (table : OpcodeTable) :
    (table.placeAt p).length = table.length ∨
      ∃ opcode : UInt8, (table.placeAt p).length = opcode.toNat + 1 ∧
        p.1.toNat + p.2.number.toNat = opcode.toNat ∧ table.get? opcode ≠ some p.2.type := by
  rcases Nat.lt_or_ge (p.1.toNat + p.2.number.toNat) tableSize with hlt | hle
  · have hopcode : (UInt8.ofNat (p.1.toNat + p.2.number.toNat)).toNat =
        p.1.toNat + p.2.number.toNat := UInt8.toNat_ofNat_of_lt' hlt
    by_cases hsame : table.get? (UInt8.ofNat (p.1.toNat + p.2.number.toNat)) = some p.2.type
    · exact .inl (by rw [placeAt_of_get? hopcode.symm hsame])
    · have hlength : (table.placeAt p).length = table.length ∨
          (table.placeAt p).length = p.1.toNat + p.2.number.toNat + 1 := by
        rw [placeAt, place_of_lt hlt, length_write]
        split
        · exact .inl rfl
        · simp only
          omega
      exact hlength.imp_right fun heq => ⟨_, by rw [hopcode, heq], hopcode.symm, hsame⟩
  · exact .inl (by rw [placeAt, place_of_le hle])

/-- So it is after many registrations. -/
theorem length_foldl_cases (ps : List (UInt8 × Declaration)) (table : OpcodeTable) :
    (ps.foldl placeAt table).length = table.length ∨
      ∃ opcode : UInt8, (ps.foldl placeAt table).length = opcode.toNat + 1 ∧
        ∃ p ∈ ps, p.1.toNat + p.2.number.toNat = opcode.toNat ∧
          table.get? opcode ≠ some p.2.type := by
  induction ps generalizing table with
  | nil => exact .inl rfl
  | cons p ps ih =>
    rw [List.foldl_cons]
    rcases ih (table.placeAt p) with hsame | ⟨opcode, hlength, q, hq, hslot, hother⟩
    · rw [hsame]
      refine (length_placeAt_cases p table).imp_right ?_
      rintro ⟨opcode, hlength, hslot, hother⟩
      exact ⟨opcode, hlength, p, List.mem_cons_self, hslot, hother⟩
    · refine .inr ⟨opcode, hlength, ?_⟩
      rw [get?_placeAt] at hother
      split at hother
      next hfirst =>
        -- Both are for the opcode, so that one of the two brings it another type.
        by_cases hsame : table.get? opcode = some p.2.type
        · exact ⟨q, List.mem_cons_of_mem p hq, hslot, by rw [hsame]; exact hother⟩
        · exact ⟨p, List.mem_cons_self, hfirst, hsame⟩
      next => exact ⟨q, List.mem_cons_of_mem p hq, hslot, hother⟩

/-- An opcode is below the length after registrations, unless all of them for it bring the type that
it has. -/
theorem lt_length_or_unwritten (ps : List (UInt8 × Declaration)) (table : OpcodeTable)
    (opcode : UInt8) :
    opcode.toNat < (ps.foldl placeAt table).length ∨
      (ps.foldl placeAt table).get? opcode = table.get? opcode ∧
        ∀ p ∈ ps, p.1.toNat + p.2.number.toNat = opcode.toNat →
          table.get? opcode = some p.2.type := by
  induction ps generalizing table with
  | nil => exact .inr ⟨rfl, nofun⟩
  | cons p ps ih =>
    rw [List.foldl_cons]
    by_cases hslot : p.1.toNat + p.2.number.toNat = opcode.toNat
    · by_cases hsame : table.get? opcode = some p.2.type
      · rw [placeAt_of_get? hslot hsame]
        refine (ih table).imp_right ?_
        rintro ⟨hget, hrest⟩
        refine ⟨hget, fun q hq hq' => ?_⟩
        rcases List.mem_cons.mp hq with rfl | hq
        · exact hsame
        · exact hrest q hq hq'
      · have hlt : p.1.toNat + p.2.number.toNat < tableSize := hslot ▸ opcode.toNat_lt
        have hwritten : opcode.toNat < (table.placeAt p).length := by
          rw [get?_of_toNat hslot hlt] at hsame
          rw [placeAt, place, insert_of_lt hlt]
          simp only [hsame, if_false]
          show opcode.toNat < max table.length (p.1.toNat + p.2.number.toNat + 1)
          omega
        exact .inl (Nat.lt_of_lt_of_le hwritten (grows_foldl ps (table.placeAt p)).length_le)
    · have hget : (table.placeAt p).get? opcode = table.get? opcode := by
        rw [get?_placeAt, if_neg hslot]
      refine (ih (table.placeAt p)).imp_right ?_
      rintro ⟨hafter, hrest⟩
      refine ⟨hafter.trans hget, fun q hq hq' => ?_⟩
      rcases List.mem_cons.mp hq with rfl | hq
      · exact absurd hq' hslot
      · exact hget ▸ hrest q hq hq'

/-- To make registrations again changes nothing, even if they contradict each other. -/
theorem foldl_placeAt_foldl_placeAt (ps : List (UInt8 × Declaration)) (table : OpcodeTable) :
    ps.foldl placeAt (ps.foldl placeAt table) = ps.foldl placeAt table := by
  refine ext_get? (fun opcode => ?_) ?_
  · rw [get?_foldl_placeAt, get?_foldl_placeAt]
    cases latest? ps opcode <;> rfl
  · -- Only an opcode that was left alone could make the table longer, and it is left alone again.
    rcases length_foldl_cases ps (ps.foldl placeAt table) with
      hsame | ⟨opcode, hlength, p, hp, hslot, hother⟩
    · exact hsame
    · rcases lt_length_or_unwritten ps table opcode with hlt | ⟨hget, hunwritten⟩
      · have := (grows_foldl ps (ps.foldl placeAt table)).length_le
        omega
      · exact absurd (hget.trans (hunwritten p hp hslot)) hother

/-- Nothing is left to do for a list that was just registered, if it contradicts itself nowhere. -/
theorem placeAt_placeAll {base : UInt8} {ds : List Declaration} (hfits : Fits base ds)
    (hds : Declaration.Consistent ds) {d : Declaration} (hd : d ∈ ds) (table : OpcodeTable) :
    (placeAll base ds table).placeAt (base, d) = placeAll base ds table := by
  have hslot : base.toNat + d.number.toNat =
      (UInt8.ofNat (base.toNat + d.number.toNat)).toNat :=
    (UInt8.toNat_ofNat_of_lt' (hfits d hd)).symm
  refine placeAt_of_get? hslot ?_
  rw [get?_placeAll hfits, lastAt?_of_mem hds hd hslot, Option.some_or]

end OpcodeTable

namespace Insertion

/-- To make an insertion again changes nothing. -/
theorem apply_apply (i : Insertion) (tables : OpcodeTables) :
    i.apply (i.apply tables) = i.apply tables := by
  simp only [apply_eq, OpcodeTable.foldl_placeAt_foldl_placeAt]

end Insertion

end DisplayClient
