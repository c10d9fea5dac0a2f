import DisplayClient.Proofs.Extension.Resolution

/-!
# A question that fails

A module goes into both opcode tables or into neither
(`OpcodeTables.insertModule_eq_ok_iff`, `OpcodeTables.state_of_insertModule_error`).
The same holds of a whole question for an extension: if it fails, then the
tables, the core and the resolved extensions are what they were, and so are
the absent keys, unless the server has just reported the absence
(`Resolver.Ends.keepsBut_of_error`, `Resolver.resolve_all_or_nothing`).
-/

namespace DisplayClient

open OpcodeTable (Fits)

namespace OpcodeTables

variable {firstEvent firstError : UInt8} {events errors : List Declaration} {tables : OpcodeTables}

/-- A module is registered exactly if both of its lists fit. -/
theorem insertModule_eq_ok_iff :
    (insertModule firstEvent events firstError errors tables).result = .ok () ↔
      Fits firstEvent events ∧ Fits firstError errors := by
  by_cases hfits : Fits firstEvent events ∧ Fits firstError errors
  · obtain ⟨lines, hinsert⟩ := insertModule_of_fits hfits.1 hfits.2 tables
    rw [hinsert]
    exact ⟨fun _ => hfits, fun _ => rfl⟩
  · obtain ⟨base, number, hinsert⟩ := insertModule_of_not_fits hfits tables
    rw [hinsert]
    refine ⟨fun h => ?_, fun h => absurd h hfits⟩
    cases h

/-- A module that is refused is in neither table. -/
theorem state_of_insertModule_error {fault : Fault}
    (h : (insertModule firstEvent events firstError errors tables).result = .error fault) :
    (insertModule firstEvent events firstError errors tables).state = tables := by
  have hfits : ¬ (Fits firstEvent events ∧ Fits firstError errors) := fun hfits => by
    rw [insertModule_eq_ok_iff.mpr hfits] at h
    cases h
  obtain ⟨base, number, hinsert⟩ := insertModule_of_not_fits hfits tables
  rw [hinsert]

end OpcodeTables

namespace Resolver

variable {σ : Type}

/-- Afterwards the same is known as before, save that the `reported` extensions are absent, too. -/
structure KeepsBut (before after : Resolver) (reported : ExtensionKey → Prop) : Prop where
  tables_eq : after.tables = before.tables
  core_eq : after.known.core = before.known.core
  resolved_eq : after.known.resolved = before.known.resolved
  mem_absent_iff (key : ExtensionKey) :
    key ∈ after.known.absent ↔ key ∈ before.known.absent ∨ reported key

theorem KeepsBut.refl {resolver : Resolver} {reported : ExtensionKey → Prop}
    (h : ∀ key, ¬ reported key) : KeepsBut resolver resolver reported where
  tables_eq := rfl
  core_eq := rfl
  resolved_eq := rfl
  mem_absent_iff key := ⟨.inl, fun hkey => hkey.resolve_right (h key)⟩

variable (registry : Registry) (key : ExtensionKey) (query : ExtensionKey → Step σ Presence)

/-- The question for `key` goes to the server. -/
def Asked (resolver : Resolver) : Prop :=
  ∃ registration, Asks registry key resolver registration

/-- The question for `key` goes to the server, which answers that it does not have the extension. -/
def ReportedAbsent (resolver : Resolver) (server : σ) : Prop :=
  Asked registry key resolver ∧
    ∃ presence, (query key server).result = .ok presence ∧ presence.present = false

section Ends

variable {registry key query} {resolver : Resolver} {server : σ}
  {outcome : Outcome (Resolver × σ) Extension}

/-- The server's state shows whether it was asked. -/
theorem Ends.server_eq (h : Ends registry key query resolver server outcome) :
    (Asked registry key resolver → outcome.state.2 = (query key server).state) ∧
      (¬ Asked registry key resolver → outcome.state.2 = server) := by
  cases h with
  | settled result hsettled =>
    refine ⟨fun ⟨registration, hasks⟩ => ?_, fun _ => rfl⟩
    rw [hasks.unsettled] at hsettled
    cases hsettled
  | unknown _ hregistry =>
    refine ⟨fun ⟨registration, hasks⟩ => ?_, fun _ => rfl⟩
    rw [hasks.registered] at hregistry
    cases hregistry
  | unanswered registration _ _ _ hasks hquery | absent registration _ _ _ _ hasks hquery
  | crowded registration _ _ _ _ _ _ hasks hquery | resolved registration _ _ _ _ hasks hquery =>
    exact ⟨fun _ => by rw [hquery], fun hnot => absurd ⟨registration, hasks⟩ hnot⟩

/-- A question that fails adds nothing but an absence that the server reported. -/
theorem Ends.keepsBut_of_error (h : Ends registry key query resolver server outcome)
    {fault : Fault} (hresult : outcome.result = .error fault) :
    KeepsBut resolver outcome.state.1
      (fun key' => key' = key ∧ ReportedAbsent registry key query resolver server) := by
  cases h with
  | settled result hsettled =>
    refine KeepsBut.refl fun key' ⟨_, ⟨registration, hasks⟩, _⟩ => ?_
    rw [hasks.unsettled] at hsettled
    cases hsettled
  | unknown hunsettled hregistry =>
    refine KeepsBut.refl fun key' ⟨_, ⟨registration, hasks⟩, _⟩ => ?_
    rw [hasks.registered] at hregistry
    cases hregistry
  | unanswered registration fault' server' lines hasks hquery =>
    refine KeepsBut.refl fun key' ⟨_, _, presence, hanswer, _⟩ => ?_
    rw [hquery] at hanswer
    cases hanswer
  | crowded registration presence server' lines lines' base number hasks hquery hpresent =>
    refine KeepsBut.refl fun key' ⟨_, _, presence', hanswer, habsent⟩ => ?_
    rw [hquery] at hanswer
    cases hanswer
    rw [hpresent] at habsent
    cases habsent
  | absent registration presence server' lines lines' hasks hquery habsent =>
    have hreported : ReportedAbsent registry key query resolver server :=
      ⟨⟨registration, hasks⟩, presence, by rw [hquery], habsent⟩
    exact
      { tables_eq := rfl
        core_eq := rfl
        resolved_eq := rfl
        mem_absent_iff := fun key' => by simp [KnownExtensions.insertAbsent, hreported] }
  | resolved => cases hresult

end Ends

/-- A question that fails leaves both tables, the core and the resolved extensions as they were, and
the absent keys, too, but that it adds its own key exactly if the server was asked and said that it
does not have the extension. A module is registered exactly if both of its lists fit, and one that
is not is in neither table, whichever of the lists it was that did not fit. -/
theorem resolve_all_or_nothing (resolver : Resolver) (server : σ) :
    let outcome := resolve registry key query (resolver, server)
    (∀ fault, outcome.result = .error fault →
      KeepsBut resolver outcome.state.1
        (fun key' => key' = key ∧ ReportedAbsent registry key query resolver server)) ∧
    ((Asked registry key resolver → outcome.state.2 = (query key server).state) ∧
      (¬ Asked registry key resolver → outcome.state.2 = server)) ∧
    ∀ (firstEvent firstError : UInt8) (events errors : List Declaration) (tables : OpcodeTables),
      let inserted := OpcodeTables.insertModule firstEvent events firstError errors tables
      (inserted.result = .ok () ↔ Fits firstEvent events ∧ Fits firstError errors) ∧
        ∀ fault, inserted.result = .error fault → inserted.state = tables := by
  intro outcome
  have hends : Ends registry key query resolver server outcome :=
    resolve_ends registry key query resolver server
  refine ⟨fun fault hresult => hends.keepsBut_of_error hresult, hends.server_eq, ?_⟩
  intro firstEvent firstError events errors tables inserted
  exact ⟨OpcodeTables.insertModule_eq_ok_iff,
    fun fault hresult => OpcodeTables.state_of_insertModule_error hresult⟩

/-- The events of an extension fit and its error does not: the server was asked, and neither table
has anything of the extension. -/
theorem resolve_all_or_nothing_of_crowded :
    let key : ExtensionKey := .named "DAMAGE"
    let presence : Presence := ⟨true, 143, 91, 250⟩
    let registration : Registration :=
      ⟨.named "ExtA", [⟨0, .named "Alpha"⟩], [⟨10, .named "BadOutput"⟩]⟩
    let registry := Registry.empty.insert key registration
    let outcome := resolve registry key (fun _ asked => ⟨.ok presence, asked + 1, []⟩) (empty, 0)
    outcome.result = .error (.range 250 11 256) ∧ outcome.state.2 = 1 ∧
      Fits presence.firstEvent registration.events ∧ outcome.state.1.tables = .empty ∧
      key ∉ outcome.state.1.known.absent := by
  intro key presence registration registry outcome
  obtain ⟨hfailed, ⟨hasked, -⟩, -⟩ := resolve_all_or_nothing registry key
    (fun _ asked => ⟨.ok presence, asked + 1, []⟩) empty 0
  have hresult : outcome.result = .error (.range 250 11 256) := rfl
  have hkept := hfailed _ hresult
  have hpresent : ¬ presence.present = false := by decide
  refine ⟨hresult, hasked ⟨registration, rfl, rfl⟩, by decide, hkept.tables_eq, fun hkey => ?_⟩
  rcases (hkept.mem_absent_iff key).mp hkey with hbefore | ⟨-, -, _, hanswer, habsent⟩
  · exact absurd hbefore List.not_mem_nil
  · cases hanswer
    exact hpresent habsent

end Resolver

end DisplayClient
