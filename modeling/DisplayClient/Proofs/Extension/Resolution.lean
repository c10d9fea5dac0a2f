import DisplayClient.Extension.Resolver
import DisplayClient.Proofs.Opcode.Placement

/-!
# How the question for an extension ends

What a connection knows settles the questions for the core, for an extension
that was resolved and for one that is absent (`KnownExtensions.settled?`).
`Resolver.resolve` has six ends, listed by `Resolver.Ends` with the state that
each leaves; `resolve_ends` says that there are no others. The server is asked
in the last four only. The core is taken up without a question, and always
fits (`Resolver.takeCore_of_registered`).

* `Ends.eq_of_settled`: a settled question is answered as it was settled;
* `Ends.settled?_state`: no question unsettles another.
-/

namespace DisplayClient

namespace KnownExtensions

/-- Keeping a resolved extension makes it the answer for its key and changes no other answer. -/
theorem find?_insert {known : KnownExtensions} {e : Extension} (h : known.find? e.key = none)
    (key : ExtensionKey) :
    (known.insert e).find? key = if e.key = key then some e else known.find? key := by
  simp only [find?, insert, List.find?_append, List.find?_singleton, beq_iff_eq] at h ⊢
  split
  · rename_i heq
    rw [← heq, h, Option.none_or]
  · rw [Option.or_none]

theorem key_of_find? {known : KnownExtensions} {key : ExtensionKey} {e : Extension}
    (h : known.find? key = some e) : e.key = key := by
  simpa using List.find?_some h

@[simp] theorem find?_insertAbsent (known : KnownExtensions) (key key' : ExtensionKey) :
    (known.insertAbsent key).find? key' = known.find? key' := rfl

/-- What is known settles the question for `key`: the core was there or not when the connection was
opened, and an extension that was asked for is kept, or known to be absent. -/
def settled? (known : KnownExtensions) (key : ExtensionKey) : Option (Except Fault Extension) :=
  if key = .core then
    some (match known.core with
      | some core => .ok core
      | none => .error .noCore)
  else if let some e := known.find? key then some (.ok e)
  else if key ∈ known.absent then some (.error (.absentExtension key))
  else none

theorem settled?_core (known : KnownExtensions) :
    known.settled? .core = some (match known.core with
      | some core => .ok core
      | none => .error .noCore) := rfl

theorem settled?_of_find? {known : KnownExtensions} {key : ExtensionKey} {e : Extension}
    (hkey : key ≠ .core) (h : known.find? key = some e) : known.settled? key = some (.ok e) := by
  simp only [settled?, hkey, if_false, h]

theorem settled?_of_absent {known : KnownExtensions} {key : ExtensionKey} (hkey : key ≠ .core)
    (h : known.find? key = none) (habsent : key ∈ known.absent) :
    known.settled? key = some (.error (.absentExtension key)) := by
  simp only [settled?, hkey, if_false, h, habsent, if_true]

theorem settled?_eq_none_iff {known : KnownExtensions} {key : ExtensionKey} :
    known.settled? key = none ↔
      key ≠ .core ∧ known.find? key = none ∧ key ∉ known.absent := by
  by_cases hkey : key = .core
  · simp [settled?, hkey]
  · cases hfind : known.find? key with
    | some e => simp [settled?_of_find? hkey hfind]
    | none => simp [settled?, hkey, hfind]

theorem core_of_settled? {known : KnownExtensions} {e : Extension}
    (h : known.settled? .core = some (.ok e)) : known.core = some e := by
  cases hcore : known.core with
  | none => simp [settled?_core, hcore] at h
  | some core => simpa [settled?_core, hcore] using h

theorem find?_of_settled? {known : KnownExtensions} {key : ExtensionKey} {e : Extension}
    (hkey : key ≠ .core) (h : known.settled? key = some (.ok e)) : known.find? key = some e := by
  cases hfind : known.find? key with
  | some e' =>
    rw [settled?_of_find? hkey hfind] at h
    simpa using h
  | none =>
    simp only [settled?, hkey, if_false, hfind] at h
    split at h <;> cases h

/-- Keeping a resolved extension settles the question for its key and no other. -/
theorem settled?_insert {known : KnownExtensions} {e : Extension}
    (h : known.settled? e.key = none) (key : ExtensionKey) :
    (known.insert e).settled? key = if e.key = key then some (.ok e) else known.settled? key := by
  obtain ⟨hkey, hkept, -⟩ := settled?_eq_none_iff.mp h
  split
  · rename_i heq
    subst heq
    exact settled?_of_find? hkey (by rw [find?_insert hkept, if_pos rfl])
  · rename_i hne
    simp only [settled?, find?_insert hkept, hne, if_false]
    rfl

/-- Keeping that an extension is absent settles the question for its key and no other. -/
theorem settled?_insertAbsent {known : KnownExtensions} {key : ExtensionKey}
    (h : known.settled? key = none) (key' : ExtensionKey) :
    (known.insertAbsent key).settled? key' =
      if key = key' then some (.error (.absentExtension key)) else known.settled? key' := by
  obtain ⟨hkey, hkept, -⟩ := settled?_eq_none_iff.mp h
  split
  · rename_i heq
    subst heq
    exact settled?_of_absent hkey hkept (by simp [insertAbsent])
  · rename_i hne
    have habsent : key' ∈ (known.insertAbsent key).absent ↔ key' ∈ known.absent := by
      simp [insertAbsent, Ne.symm hne]
    simp only [settled?, find?_insertAbsent, habsent]
    rfl

end KnownExtensions

namespace Resolver

open OpcodeTable (Fits slotFault)

variable {σ : Type} (registry : Registry) (key : ExtensionKey)
  (query : ExtensionKey → Step σ Presence)

/-- Whether what a module declares fits the opcodes that a server gives it. -/
def Room (registration : Registration) (presence : Presence) : Prop :=
  Fits presence.firstEvent registration.events ∧ Fits presence.firstError registration.errors

instance (registration : Registration) (presence : Presence) :
    Decidable (Room registration presence) := inferInstanceAs (Decidable (_ ∧ _))

/-- The resolver with an extension that was just resolved. -/
def withExtension (resolver : Resolver) (registration : Registration) (presence : Presence) :
    Resolver where
  known :=
    resolver.known.insert (registration.build resolver.known.instances key presence)
  tables :=
    resolver.tables.place presence.firstEvent registration.events presence.firstError
      registration.errors

/-- The question for `key` goes to the server: nothing that is known settles it, and a module is
registered for it. -/
structure Asks (resolver : Resolver) (registration : Registration) : Prop where
  unsettled : resolver.known.settled? key = none
  registered : registry.find? key = some registration

theorem Asks.key_ne {resolver : Resolver} {registration : Registration}
    (h : Asks registry key resolver registration) : key ≠ .core :=
  (KnownExtensions.settled?_eq_none_iff.mp h.unsettled).1

/-- The ends of the question for `key`, each with the state that it leaves. -/
inductive Ends (resolver : Resolver) (server : σ) : Outcome (Resolver × σ) Extension → Prop where
  /-- What is known settles the question. -/
  | settled (result : Except Fault Extension)
      (hsettled : resolver.known.settled? key = some result) :
    Ends resolver server ⟨result, (resolver, server), []⟩
  /-- Nobody registered the key. -/
  | unknown (hunsettled : resolver.known.settled? key = none)
      (hregistry : registry.find? key = none) :
    Ends resolver server ⟨.error (.unknownExtension key), (resolver, server), []⟩
  /-- The server gave no answer. -/
  | unanswered (registration : Registration) (fault : Fault) (server' : σ) (lines : List LogLine)
      (hasks : Asks registry key resolver registration)
      (hquery : query key server = ⟨.error fault, server', lines⟩) :
    Ends resolver server ⟨.error fault, (resolver, server'), lines⟩
  /-- The server does not have the extension. -/
  | absent (registration : Registration) (presence : Presence) (server' : σ)
      (lines lines' : List LogLine) (hasks : Asks registry key resolver registration)
      (hquery : query key server = ⟨.ok presence, server', lines⟩)
      (hpresent : presence.present = false) :
    Ends resolver server
      ⟨.error (.absentExtension key),
        ({ resolver with known := resolver.known.insertAbsent key }, server'), lines'⟩
  /-- The declarations do not fit the server's opcodes. -/
  | crowded (registration : Registration) (presence : Presence) (server' : σ)
      (lines lines' : List LogLine) (base : UInt8) (number : Nat)
      (hasks : Asks registry key resolver registration)
      (hquery : query key server = ⟨.ok presence, server', lines⟩)
      (hpresent : presence.present = true) (hroom : ¬ Room registration presence) :
    Ends resolver server ⟨.error (slotFault base number), (resolver, server'), lines'⟩
  /-- The extension is resolved. -/
  | resolved (registration : Registration) (presence : Presence) (server' : σ)
      (lines lines' : List LogLine) (hasks : Asks registry key resolver registration)
      (hquery : query key server = ⟨.ok presence, server', lines⟩)
      (hpresent : presence.present = true) (hroom : Room registration presence) :
    Ends resolver server
      ⟨.ok (registration.build resolver.known.instances key presence),
        (resolver.withExtension key registration presence, server'), lines'⟩

/-! ## Taking up the core -/

theorem takeCore_of_known {resolver : Resolver} {core : Extension}
    (h : resolver.known.core = some core) (registry : Registry) :
    takeCore registry resolver = ⟨.ok (some core), resolver, []⟩ := by
  rw [takeCore, Step.read_bind, h]
  rfl

theorem takeCore_of_unregistered {resolver : Resolver} (h : resolver.known.core = none)
    {registry : Registry} (hregistry : registry.find? .core = none) :
    takeCore registry resolver = ⟨.ok none, resolver, []⟩ := by
  rw [takeCore, Step.read_bind, h]
  simp only [hregistry]
  rfl

/-- Any core fits: its numbers are opcodes themselves. -/
theorem takeCore_of_registered {resolver : Resolver} (h : resolver.known.core = none)
    {registry : Registry} {registration : Registration}
    (hregistry : registry.find? .core = some registration) :
    let core := registration.build resolver.known.instances .core .absent
    ∃ lines, takeCore registry resolver =
      ⟨.ok (some core), ⟨resolver.known.setCore core,
        resolver.tables.place 0 registration.events 0 registration.errors⟩, lines⟩ := by
  obtain ⟨lines, hinsert⟩ := OpcodeTables.insertModule_of_fits
    (OpcodeTable.fits_zero registration.events) (OpcodeTable.fits_zero registration.errors)
    resolver.tables
  have hfirst : onTables (OpcodeTables.insertModule 0 registration.events 0 registration.errors)
      resolver = ⟨.ok (), ⟨resolver.known,
        resolver.tables.place 0 registration.events 0 registration.errors⟩, lines⟩ := by
    rw [onTables, Step.onPart_apply, hinsert]
  rw [takeCore, Step.read_bind, h]
  simp only [hregistry]
  exact ⟨lines ++ [.coreLoaded registration.module registration.events.length
    registration.errors.length], Step.bind_of_ok hfirst⟩

/-! ## Questions -/

theorem settle_of_absent {presence : Presence} (h : presence.present = false)
    (registration : Registration) (resolver : Resolver) :
    settle registration key presence resolver =
      ⟨.error (.absentExtension key),
        { resolver with known := resolver.known.insertAbsent key }, [.extensionAbsent key]⟩ := by
  simp only [settle, h, Bool.false_eq_true, if_false]
  rfl

theorem settle_of_not_room {registration : Registration} {presence : Presence}
    (hpresent : presence.present = true) (h : ¬ Room registration presence)
    (resolver : Resolver) :
    ∃ base number, settle registration key presence resolver =
      ⟨.error (slotFault base number), resolver, []⟩ := by
  obtain ⟨base, number, hinsert⟩ :=
    OpcodeTables.insertModule_of_not_fits h resolver.tables
  refine ⟨base, number, ?_⟩
  simp only [settle, hpresent, if_true]
  refine Step.bind_of_error ?_
  rw [onTables, Step.onPart_apply, hinsert]

theorem settle_of_room {registration : Registration} {presence : Presence}
    (hpresent : presence.present = true) (h : Room registration presence) (resolver : Resolver) :
    ∃ lines, settle registration key presence resolver =
      ⟨.ok (registration.build resolver.known.instances key presence),
        resolver.withExtension key registration presence, lines⟩ := by
  obtain ⟨lines, hinsert⟩ := OpcodeTables.insertModule_of_fits h.1 h.2 resolver.tables
  have hfirst : onTables (OpcodeTables.insertModule presence.firstEvent registration.events
      presence.firstError registration.errors) resolver =
      ⟨.ok (), ⟨resolver.known, resolver.tables.place presence.firstEvent registration.events
        presence.firstError registration.errors⟩, lines⟩ := by
    rw [onTables, Step.onPart_apply, hinsert]
  simp only [settle, hpresent, if_true]
  exact ⟨lines ++ [.extensionResolved key presence.majorOpcode presence.firstEvent
    presence.firstError], Step.bind_of_ok hfirst⟩

/-- A settled question is answered as it was settled, without the server. -/
theorem resolve_of_settled {resolver : Resolver} {result : Except Fault Extension}
    (h : resolver.known.settled? key = some result) (server : σ) :
    resolve registry key query (resolver, server) = ⟨result, (resolver, server), []⟩ := by
  rw [resolve, Step.read_bind]
  by_cases hkey : key = .core
  · subst hkey
    rw [KnownExtensions.settled?_core] at h
    cases hcore : resolver.known.core with
    | some e =>
      rw [hcore] at h
      cases h
      simp only [ExtensionKey.isCore]
      rfl
    | none =>
      rw [hcore] at h
      cases h
      simp only [ExtensionKey.isCore]
      rfl
  · simp only [ExtensionKey.isCore_of_ne hkey, Bool.false_eq_true, if_false]
    cases hkept : resolver.known.find? key with
    | some e =>
      rw [KnownExtensions.settled?_of_find? hkey hkept] at h
      cases h
      rfl
    | none =>
      by_cases habsent : key ∈ resolver.known.absent
      · rw [KnownExtensions.settled?_of_absent hkey hkept habsent] at h
        cases h
        simp only [habsent, if_true]
        rfl
      · rw [KnownExtensions.settled?_eq_none_iff.mpr ⟨hkey, hkept, habsent⟩] at h
        cases h

/-- Without the server, too, if nobody registered the key. -/
theorem resolve_of_unknown {resolver : Resolver} (hunsettled : resolver.known.settled? key = none)
    (hregistry : registry.find? key = none) (server : σ) :
    resolve registry key query (resolver, server) =
      ⟨.error (.unknownExtension key), (resolver, server), []⟩ := by
  obtain ⟨hkey, hkept, habsent⟩ := KnownExtensions.settled?_eq_none_iff.mp hunsettled
  rw [resolve, Step.read_bind]
  simp only [ExtensionKey.isCore_of_ne hkey, Bool.false_eq_true, hkept, habsent, hregistry,
    if_false]
  rfl

/-- Any other question does nothing but ask the server and keep the answer. -/
theorem resolve_of_asks {resolver : Resolver} {registration : Registration}
    (hasks : Asks registry key resolver registration) (server : σ) :
    resolve registry key query (resolver, server) =
      ((query key).onPart (·.2) (fun server (s : Resolver × σ) => (s.1, server)) >>= fun presence =>
        (settle registration key presence).onPart (·.1) fun resolver s => (resolver, s.2))
          (resolver, server) := by
  obtain ⟨hkey, hkept, habsent⟩ := KnownExtensions.settled?_eq_none_iff.mp hasks.unsettled
  rw [resolve, Step.read_bind]
  simp only [ExtensionKey.isCore_of_ne hkey, Bool.false_eq_true, hkept, habsent,
    hasks.registered, if_false]

/-- The ends of a question that goes to the server. -/
theorem ask_ends {resolver : Resolver} {registration : Registration}
    (hasks : Asks registry key resolver registration) (server : σ) :
    Ends registry key query resolver server (resolve registry key query (resolver, server)) := by
  rw [resolve_of_asks registry key query hasks]
  cases hquery : query key server with
  | mk result server' lines =>
    have hasked : ((query key).onPart (·.2) fun server (s : Resolver × σ) => (s.1, server))
        (resolver, server) = ⟨result, (resolver, server'), lines⟩ := by
      simp only [Step.onPart_apply, hquery]
    cases result with
    | error fault =>
      rw [Step.bind_of_error hasked]
      exact .unanswered registration fault server' lines hasks hquery
    | ok presence =>
      rw [Step.bind_of_ok hasked, Step.onPart_apply]
      simp only
      cases hpresent : presence.present with
      | false =>
        rw [settle_of_absent key hpresent]
        exact .absent registration presence server' lines _ hasks hquery hpresent
      | true =>
        by_cases hroom : Room registration presence
        · obtain ⟨lines', hsettle⟩ := settle_of_room key hpresent hroom resolver
          rw [hsettle]
          exact .resolved registration presence server' lines _ hasks hquery hpresent hroom
        · obtain ⟨base, number, hsettle⟩ := settle_of_not_room key hpresent hroom resolver
          rw [hsettle]
          exact .crowded registration presence server' lines _ base number hasks hquery hpresent
            hroom

/-- Every question for an extension ends in one of these ways. -/
theorem resolve_ends (resolver : Resolver) (server : σ) :
    Ends registry key query resolver server (resolve registry key query (resolver, server)) := by
  cases hsettled : resolver.known.settled? key with
  | some result =>
    rw [resolve_of_settled registry key query hsettled]
    exact .settled result hsettled
  | none =>
    cases hregistry : registry.find? key with
    | none =>
      rw [resolve_of_unknown registry key query hsettled hregistry]
      exact .unknown hsettled hregistry
    | some registration => exact ask_ends registry key query ⟨hsettled, hregistry⟩ server

section Ends

variable {registry key query} {resolver : Resolver} {server : σ}
  {outcome : Outcome (Resolver × σ) Extension}

theorem settled?_withExtension {registration : Registration}
    (hasks : Asks registry key resolver registration) (presence : Presence)
    (key' : ExtensionKey) :
    (resolver.withExtension key registration presence).known.settled? key' =
      if key = key' then some (.ok (registration.build resolver.known.instances key presence))
      else resolver.known.settled? key' :=
  KnownExtensions.settled?_insert
    (e := registration.build resolver.known.instances key presence) hasks.unsettled key'

/-- A settled question is answered without the server, and nothing else happens. -/
theorem Ends.eq_of_settled (h : Ends registry key query resolver server outcome)
    {result : Except Fault Extension} (hsettled : resolver.known.settled? key = some result) :
    outcome = ⟨result, (resolver, server), []⟩ := by
  cases h with
  | settled result' hsettled' =>
    rw [hsettled] at hsettled'
    cases hsettled'
    rfl
  | unknown hunsettled =>
    rw [hsettled] at hunsettled
    cases hunsettled
  | unanswered _ _ _ _ hasks | absent _ _ _ _ _ hasks | crowded _ _ _ _ _ _ _ hasks
  | resolved _ _ _ _ _ hasks =>
    have hunsettled := hasks.unsettled
    rw [hsettled] at hunsettled
    cases hunsettled

/-- A question leaves the questions for other keys as they are. -/
theorem Ends.settled?_of_ne (h : Ends registry key query resolver server outcome)
    {key' : ExtensionKey} (hne : key ≠ key') :
    outcome.state.1.known.settled? key' = resolver.known.settled? key' := by
  cases h with
  | settled | unknown | unanswered | crowded => rfl
  | absent registration presence server' lines lines' hasks =>
    rw [KnownExtensions.settled?_insertAbsent hasks.unsettled, if_neg hne]
  | resolved registration presence server' lines lines' hasks =>
    rw [settled?_withExtension hasks, if_neg hne]

/-- A question leaves every question settled that was settled before. -/
theorem Ends.settled?_state (h : Ends registry key query resolver server outcome)
    {key' : ExtensionKey} {result : Except Fault Extension}
    (hsettled : resolver.known.settled? key' = some result) :
    outcome.state.1.known.settled? key' = some result := by
  by_cases hkey : key = key'
  · subst hkey
    rw [h.eq_of_settled hsettled]
    exact hsettled
  · rw [h.settled?_of_ne hkey, hsettled]

/-- An extension settles the question that it was given for. -/
theorem Ends.settled?_of_ok (h : Ends registry key query resolver server outcome)
    {e : Extension} (hresult : outcome.result = .ok e) :
    outcome.state.1.known.settled? key = some (.ok e) := by
  cases h with
  | settled result hsettled =>
    cases hresult
    exact hsettled
  | unknown | unanswered | absent | crowded => cases hresult
  | resolved registration presence server' lines lines' hasks =>
    cases hresult
    rw [settled?_withExtension hasks, if_pos rfl]

/-- So does an absence, which only the server's answer brings up. -/
theorem Ends.settled?_of_absent (h : Ends registry key query resolver server outcome)
    (hquery : (query key server).result ≠ .error (.absentExtension key))
    (hresult : outcome.result = .error (.absentExtension key)) :
    outcome.state.1.known.settled? key = some (.error (.absentExtension key)) := by
  cases h with
  | settled result hsettled =>
    cases hresult
    exact hsettled
  | unknown | crowded | resolved => cases hresult
  | unanswered registration fault server' lines hasks hasked =>
    rw [hasked] at hquery
    cases hresult
    exact (hquery rfl).elim
  | absent registration presence server' lines lines' hasks =>
    rw [KnownExtensions.settled?_insertAbsent hasks.unsettled, if_pos rfl]

end Ends

end Resolver

end DisplayClient
