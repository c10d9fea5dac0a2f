import DisplayClient.Proofs.Opcode.Reordering

/-!
# The last registration holds

A client of a table makes calls, each for a single registration or for a list
of them (`OpcodeTable.Call`). A call writes the registrations that it makes in
order, which are none if it fails (`Call.state_perform`), so that after any
calls an opcode has the type of the last registration made for it
(`get?_run`). A list is registered like its single registrations one after the
other (`insertEach`), if each of them would succeed, and else not at all,
where the single ones would have gone on to the first that fails
(`insertEach_of_not_fits`).
-/

namespace DisplayClient.OpcodeTable

/-! ## Calls -/

/-- A call for a table. -/
inductive Call where
  /-- Registers a type for a number. -/
  | one (base number : UInt8) (type : TypeTag)
  /-- Registers a list of declarations. -/
  | all (base : UInt8) (ds : List Declaration)

namespace Call

def perform : Call → Step OpcodeTable Unit
  | one base number type => insert base number type
  | all base ds => insertAll base ds

/-- The single registrations that the call asks for, each at its base. -/
def registrations : Call → List (UInt8 × Declaration)
  | one base number type => [(base, ⟨number, type⟩)]
  | all base ds => ds.map fun d => (base, d)

/-- The single registrations that the call makes: all of them if it succeeds, and none if not. -/
def made (c : Call) (table : OpcodeTable) : List (UInt8 × Declaration) :=
  match (c.perform table).result with
  | .ok () => c.registrations
  | .error _ => []

end Call

/-- The table after calls, one after the other. -/
def run : List Call → OpcodeTable → OpcodeTable
  | [], table => table
  | c :: calls, table => run calls (c.perform table).state

/-- The single registrations made by calls that succeed, in order. -/
def allMade : List Call → OpcodeTable → List (UInt8 × Declaration)
  | [], _ => []
  | c :: calls, table => c.made table ++ allMade calls (c.perform table).state

/-- The type of the last of some registrations for an opcode. -/
def latest? (ps : List (UInt8 × Declaration)) (opcode : UInt8) : Option TypeTag :=
  (ps.filter fun p => p.1.toNat + p.2.number.toNat = opcode.toNat).getLast?.map (·.2.type)

/-- The single registrations of a list one after the other, up to the first that fails. -/
def insertEach (base : UInt8) (ds : List Declaration) : Step OpcodeTable Unit :=
  ds.forM fun d => insert base d.number d.type

/-! ## What a registration writes -/

section Writing

variable {base number : UInt8} {ds : List Declaration}

theorem insert_result_iff (type : TypeTag) (table : OpcodeTable) :
    (insert base number type table).result = .ok () ↔
      base.toNat + number.toNat < tableSize := by
  rcases Nat.lt_or_ge (base.toNat + number.toNat) tableSize with hlt | hle
  · exact ⟨fun _ => hlt, fun _ => insert_result hlt type table⟩
  · rw [insert_of_le hle]
    refine ⟨fun h => ?_, fun h => absurd h (Nat.not_lt.mpr hle)⟩
    cases h

/-- The fault of a list is that of its highest number. -/
theorem insertAll_of_not_fits (h : ¬ Fits base ds) (table : OpcodeTable) :
    ∃ d ∈ ds, (∀ d' ∈ ds, d'.number.toNat ≤ d.number.toNat) ∧
      insertAll base ds table = ⟨.error (slotFault base d.number.toNat), table, []⟩ := by
  rcases checkRoom_cases base ds with ⟨hfits, -⟩ | ⟨d, hd, hhighest, -, hrefused⟩
  · exact absurd hfits h
  · exact ⟨d, hd, hhighest, by rw [insertAll, Step.liftM_error_bind hrefused]⟩

theorem insertAll_result_iff (table : OpcodeTable) :
    (insertAll base ds table).result = .ok () ↔ Fits base ds := by
  by_cases hfits : Fits base ds
  · obtain ⟨lines, hinsert⟩ := insertAll_of_fits hfits table
    rw [hinsert]
    exact ⟨fun _ => hfits, fun _ => rfl⟩
  · obtain ⟨d, -, -, hinsert⟩ := insertAll_of_not_fits hfits table
    rw [hinsert]
    refine ⟨fun h => ?_, fun h => absurd h hfits⟩
    cases h

theorem insertAll_eq_insertEach (h : Fits base ds) (table : OpcodeTable) :
    insertAll base ds table = insertEach base ds table := by
  rw [insertAll, Step.liftM_ok_bind (checkRoom_of_fits h), insertEach]

/-- A list that does not fit has a first declaration that does not. -/
theorem exists_first_of_not_fits (h : ¬ Fits base ds) :
    ∃ before d after, ds = before ++ d :: after ∧ Fits base before ∧
      tableSize ≤ base.toNat + d.number.toNat := by
  cases hfind : ds.find? fun d => decide (tableSize ≤ base.toNat + d.number.toNat) with
  | none =>
    refine absurd (fun d hd => ?_) h
    have hd := List.find?_eq_none.mp hfind d hd
    exact Nat.lt_of_not_le fun hle => hd (decide_eq_true hle)
  | some d =>
    obtain ⟨hd, before, after, rfl, hbefore⟩ := List.find?_eq_some_iff_append.mp hfind
    refine ⟨before, d, after, rfl, fun d' hd' => ?_, of_decide_eq_true hd⟩
    have hd' := hbefore d' hd'
    rw [Bool.not_eq_true', decide_eq_false_iff_not] at hd'
    exact Nat.lt_of_not_le hd'

/-- The single registrations before the first that fails are made. -/
theorem insertEach_of_not_fits (h : ¬ Fits base ds) (table : OpcodeTable) :
    ∃ before d after written lines fault, ds = before ++ d :: after ∧
      insertEach base before table = ⟨.ok (), written, lines⟩ ∧
      insert base d.number d.type written = ⟨.error fault, written, []⟩ ∧
      insertEach base ds table = ⟨.error fault, written, lines⟩ := by
  obtain ⟨before, d, after, rfl, hbefore, hd⟩ := exists_first_of_not_fits h
  obtain ⟨lines, hwritten⟩ : ∃ lines, insertEach base before table =
      ⟨.ok (), placeAll base before table, lines⟩ := forM_insert hbefore table
  have hrefused := insert_of_le hd d.type (placeAll base before table)
  refine ⟨before, d, after, _, lines, _, rfl, hwritten, hrefused, ?_⟩
  have hsplit : insertEach base (before ++ d :: after) =
      (insertEach base before >>= fun _ => insertEach base (d :: after)) := List.forM_append
  have hstop : insertEach base (d :: after) (placeAll base before table) = _ :=
    Step.bind_of_error hrefused
  rw [hsplit, Step.bind_of_ok hwritten, hstop, List.append_nil]

/-- A registration takes the slot of its opcode, if it has one, and no other. -/
theorem get?_placeAt (p : UInt8 × Declaration) (table : OpcodeTable) (opcode : UInt8) :
    (table.placeAt p).get? opcode =
      if p.1.toNat + p.2.number.toNat = opcode.toNat then some p.2.type
      else table.get? opcode := by
  rcases Nat.lt_or_ge (p.1.toNat + p.2.number.toNat) tableSize with hlt | hle
  · exact get?_place hlt table opcode
  · have hopcode : opcode.toNat < tableSize := opcode.toNat_lt
    have hne : p.1.toNat + p.2.number.toNat ≠ opcode.toNat := by omega
    rw [placeAt, place_of_le hle, if_neg hne]

theorem latest?_concat (ps : List (UInt8 × Declaration)) (p : UInt8 × Declaration)
    (opcode : UInt8) :
    latest? (ps ++ [p]) opcode =
      if p.1.toNat + p.2.number.toNat = opcode.toNat then some p.2.type
      else latest? ps opcode := by
  rw [latest?, List.filter_append]
  split
  next h => simp [h]
  next h => simp [h, latest?]

/-- By induction from the last registration, which writes over all before it. -/
theorem get?_foldl_placeAt (ps : List (UInt8 × Declaration)) (table : OpcodeTable)
    (opcode : UInt8) :
    (ps.foldl placeAt table).get? opcode = (latest? ps opcode).or (table.get? opcode) := by
  induction ps using List.reverseRecOn with
  | nil => rfl
  | append_singleton ps p ih =>
    rw [List.foldl_append, List.foldl_cons, List.foldl_nil, get?_placeAt, latest?_concat, ih]
    split <;> rfl

end Writing

/-! ## What calls write -/

/-- A call writes what it makes. -/
theorem Call.state_perform (c : Call) (table : OpcodeTable) :
    (c.perform table).state = (c.made table).foldl placeAt table := by
  cases c with
  | one base number type =>
    rcases Nat.lt_or_ge (base.toNat + number.toNat) tableSize with hlt | hle
    · have hok : (perform (one base number type) table).result = .ok () :=
        insert_result hlt type table
      rw [made, hok]
      rfl
    · have hrefused : perform (one base number type) table =
          ⟨.error (slotFault base number.toNat), table, []⟩ := insert_of_le hle type table
      rw [made, hrefused]
      rfl
  | all base ds =>
    by_cases hfits : Fits base ds
    · obtain ⟨lines, hinsert⟩ := insertAll_of_fits hfits table
      have hperform : perform (all base ds) table =
          ⟨.ok (), placeAll base ds table, lines⟩ := hinsert
      rw [made, hperform]
      simp only [registrations, List.foldl_map]
      rfl
    · obtain ⟨d, -, -, hinsert⟩ := insertAll_of_not_fits hfits table
      have hperform : perform (all base ds) table =
          ⟨.error (slotFault base d.number.toNat), table, []⟩ := hinsert
      rw [made, hperform]
      rfl

theorem run_eq_foldl (calls : List Call) (table : OpcodeTable) :
    run calls table = (allMade calls table).foldl placeAt table := by
  induction calls generalizing table with
  | nil => rfl
  | cons c calls ih => rw [run, allMade, List.foldl_append, ← c.state_perform, ih]

theorem get?_run (calls : List Call) (table : OpcodeTable) (opcode : UInt8) :
    (run calls table).get? opcode =
      (latest? (allMade calls table) opcode).or (table.get? opcode) := by
  rw [run_eq_foldl, get?_foldl_placeAt]

theorem get?_empty (opcode : UInt8) : empty.get? opcode = none := by
  simp [get?, empty]

/-- Whatever calls are made, an opcode has the type of the last registration that a call which
succeeded made for it. A list is registered exactly if each of its single registrations would
succeed on whichever table, and then as they are one after the other; or else the table is left as
it is, with the fault of the highest number, where they would have been made up to the first that
fails. -/
theorem last_registration_holds :
    (∀ calls opcode, (run calls empty).get? opcode = latest? (allMade calls empty) opcode) ∧
    ∀ (base : UInt8) (ds : List Declaration) (table : OpcodeTable),
      (∀ tried : Declaration → OpcodeTable, (insertAll base ds table).result = .ok () ↔
        ∀ d ∈ ds, (insert base d.number d.type (tried d)).result = .ok ()) ∧
      ((insertAll base ds table).result = .ok () →
        insertAll base ds table = insertEach base ds table) ∧
      ((insertAll base ds table).result ≠ .ok () →
        (∃ d ∈ ds, (∀ d' ∈ ds, d'.number.toNat ≤ d.number.toNat) ∧
          insertAll base ds table =
            ⟨.error (.range base.toNat (d.number.toNat + 1) tableSize), table, []⟩) ∧
        ∃ before d after written lines fault, ds = before ++ d :: after ∧
          insertEach base before table = ⟨.ok (), written, lines⟩ ∧
          insert base d.number d.type written = ⟨.error fault, written, []⟩ ∧
          insertEach base ds table = ⟨.error fault, written, lines⟩) := by
  refine ⟨fun calls opcode => ?_, fun base ds table => ⟨fun tried => ?_, fun hok => ?_,
    fun hnot => ?_⟩⟩
  · rw [get?_run, get?_empty, Option.or_none]
  · simp only [insertAll_result_iff, insert_result_iff, Fits]
  · exact insertAll_eq_insertEach ((insertAll_result_iff table).mp hok) table
  · have hfits : ¬ Fits base ds := fun hfits => hnot ((insertAll_result_iff table).mpr hfits)
    exact ⟨insertAll_of_not_fits hfits table, insertEach_of_not_fits hfits table⟩

/-- Two calls that fail, one of them for a list whose first registration would succeed, between
calls that write one slot, one of them twice and from another base. -/
theorem last_registration_holds_of_four :
    let alpha : TypeTag := .named "Alpha"
    let beta : TypeTag := .named "Beta"
    let calls : List Call :=
      [.one 250 3 alpha, .all 250 [⟨0, beta⟩, ⟨10, alpha⟩], .one 255 1 beta,
        .all 240 [⟨13, alpha⟩, ⟨1, alpha⟩, ⟨13, beta⟩]]
    (run calls empty).get? 253 = some beta ∧ (run calls empty).get? 241 = some alpha ∧
      (run calls empty).get? 250 = none ∧
      insertAll 250 [⟨0, beta⟩, ⟨10, alpha⟩] empty = ⟨.error (.range 250 11 256), empty, []⟩ := by
  intro alpha beta calls
  obtain ⟨hlatest, hlists⟩ := last_registration_holds
  refine ⟨(hlatest calls 253).trans (by decide +kernel),
    (hlatest calls 241).trans (by decide +kernel),
    (hlatest calls 250).trans (by decide +kernel), ?_⟩
  obtain ⟨⟨d, hd, hhighest, hrefused⟩, -⟩ := (hlists 250 [⟨0, beta⟩, ⟨10, alpha⟩] empty).2.2 nofun
  rcases List.mem_pair.mp hd with rfl | rfl
  · exact absurd (hhighest ⟨10, alpha⟩ (by simp)) (by decide)
  · exact hrefused

end DisplayClient.OpcodeTable
