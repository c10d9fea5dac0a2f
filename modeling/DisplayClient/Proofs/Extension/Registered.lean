import DisplayClient.Extension.Registry
import DisplayClient.Proofs.Opcode.Placement

/-!
# What a registry holds

A registry is filled by calls that register modules (`Registering`). A call
has four ends, listed by `Registering.Ends` with the registry that each leaves
(`Registering.perform_ends`): it adds one checked registration in the last of
them only (`Registering.state_cases`). Checking accepts exactly the lists that
give no number two types (`conflictAfter?_eq_none_iff`), so a registry never
holds another (`Registry.Consistent.after`).
-/

namespace DisplayClient

open Declaration (Consistent)

namespace Declaration

theorem Consistent.of_mem {ds ds' : List Declaration} (h : Consistent ds)
    (hmem : ∀ d ∈ ds', d ∈ ds) : Consistent ds' :=
  fun d hd d' hd' => h d (hmem d hd) d' (hmem d' hd')

theorem Consistent.cons {ds : List Declaration} (h : Consistent ds) {d : Declaration}
    (hd : ∀ d' ∈ ds, d'.number = d.number → d'.type = d.type) : Consistent (d :: ds) := by
  intro a ha b hb hnumber
  rcases List.mem_cons.mp ha with rfl | ha' <;> rcases List.mem_cons.mp hb with rfl | hb'
  · rfl
  · exact (hd b hb' hnumber.symm).symm
  · exact hd a ha' hnumber
  · exact h a ha' b hb' hnumber

end Declaration

namespace Registration

variable {seen : List Declaration}

/-- The next declaration is accepted, or contradicts one that was seen. -/
theorem conflictAfter?_cons_cases (hseen : Consistent seen) (d : Declaration)
    (ds : List Declaration) :
    (Consistent (d :: seen) ∧ conflictAfter? seen (d :: ds) = conflictAfter? (d :: seen) ds) ∨
    ∃ earlier ∈ seen, earlier.number = d.number ∧ earlier.type ≠ d.type ∧
      conflictAfter? seen (d :: ds) = some (d, earlier.type) := by
  rw [conflictAfter?]
  cases hfind : seen.find? fun earlier => earlier.number == d.number with
  | none =>
    have hnew : ∀ d' ∈ seen, d'.number ≠ d.number := by
      simpa using List.find?_eq_none.mp hfind
    exact .inl ⟨hseen.cons fun d' hd' heq => absurd heq (hnew d' hd'), rfl⟩
  | some earlier =>
    have hmem := List.mem_of_find?_eq_some hfind
    have hnumber : earlier.number = d.number := by simpa using List.find?_some hfind
    by_cases htype : earlier.type = d.type
    · refine .inl ⟨hseen.cons fun d' hd' heq => ?_, if_pos htype⟩
      exact (hseen d' hd' earlier hmem (heq.trans hnumber.symm)).trans htype
    · exact .inr ⟨earlier, hmem, hnumber, htype, if_neg htype⟩

/-- The declarations `seen` may be followed by exactly those that contradict neither them nor each
other. -/
theorem conflictAfter?_eq_none_iff (hseen : Consistent seen) (ds : List Declaration) :
    conflictAfter? seen ds = none ↔ Consistent (seen ++ ds) := by
  induction ds generalizing seen with
  | nil => simp [conflictAfter?, hseen]
  | cons d ds ih =>
    have hswap : Consistent (d :: seen ++ ds) ↔ Consistent (seen ++ d :: ds) :=
      ⟨fun h => h.of_mem fun a ha => by simpa [or_left_comm] using ha,
        fun h => h.of_mem fun a ha => by simpa [or_left_comm] using ha⟩
    rcases conflictAfter?_cons_cases hseen d ds with ⟨hnext, heq⟩ |
      ⟨earlier, hmem, hnumber, htype, heq⟩
    · rw [heq]
      exact (ih hnext).trans hswap
    · simp only [heq, reduceCtorEq, false_iff]
      exact fun h => htype (h earlier (by simp [hmem]) d (by simp) hnumber)

theorem checkList_eq_ok_iff (key : ExtensionKey) (list : DeclaredList) {ds : List Declaration} :
    checkList key list ds = .ok () ↔ Consistent ds := by
  have h : conflictAfter? [] ds = none ↔ Consistent ([] ++ ds) :=
    conflictAfter?_eq_none_iff (fun _ hd => absurd hd List.not_mem_nil) ds
  rw [List.nil_append] at h
  rw [← h, checkList]
  split <;> simp_all

/-- A list that contradicts itself is refused with the contradiction. -/
theorem checkList_cases (key : ExtensionKey) (list : DeclaredList) (ds : List Declaration) :
    checkList key list ds = .ok () ∨
      ∃ conflict, checkList key list ds = .error (.invalidExtension (.conflict conflict)) := by
  rw [checkList]
  split
  · exact .inl rfl
  · exact .inr ⟨_, rfl⟩

/-- A registration is what was declared, unless one of the lists contradicts itself. -/
theorem checked_eq_ok_iff {key : ExtensionKey} {module : TypeTag} {events errors : List Declaration}
    {registration : Registration} :
    checked key module events errors = .ok registration ↔
      (Consistent events ∧ Consistent errors) ∧ ⟨module, events, errors⟩ = registration := by
  rw [← checkList_eq_ok_iff key .events, ← checkList_eq_ok_iff key .errors, checked]
  cases checkList key .events events with
  | error fault => simp [bind, Except.bind]
  | ok u =>
    cases checkList key .errors errors with
    | error fault => simp [bind, Except.bind]
    | ok v => simp [bind, Except.bind, pure, Except.pure]

theorem checked_of_not_consistent {events errors : List Declaration}
    (h : ¬ (Consistent events ∧ Consistent errors)) (key : ExtensionKey) (module : TypeTag) :
    ∃ conflict,
      checked key module events errors = .error (.invalidExtension (.conflict conflict)) := by
  rw [checked]
  rcases checkList_cases key .events events with hevents | ⟨conflict, hevents⟩
  · rcases checkList_cases key .errors errors with herrors | ⟨conflict, herrors⟩
    · exact absurd ⟨(checkList_eq_ok_iff key .events).mp hevents,
        (checkList_eq_ok_iff key .errors).mp herrors⟩ h
    · rw [hevents, herrors]
      exact ⟨conflict, rfl⟩
  · rw [hevents]
    exact ⟨conflict, rfl⟩

end Registration

namespace Registry

/-- Nothing in the registry gives a number two types. -/
def Consistent (registry : Registry) : Prop :=
  ∀ entry ∈ registry.entries,
    Declaration.Consistent entry.2.events ∧ Declaration.Consistent entry.2.errors

theorem consistent_empty : empty.Consistent := fun _ h => absurd h List.not_mem_nil

theorem Consistent.insert {registry : Registry} (h : registry.Consistent) {key : ExtensionKey}
    {registration : Registration} (hevents : Declaration.Consistent registration.events)
    (herrors : Declaration.Consistent registration.errors) :
    (registry.insert key registration).Consistent := by
  intro entry hentry
  rcases List.mem_append.mp hentry with hentry | hentry
  · exact h entry hentry
  · rw [List.mem_singleton.mp hentry]
    exact ⟨hevents, herrors⟩

theorem Consistent.of_find? {registry : Registry} (h : registry.Consistent) {key : ExtensionKey}
    {registration : Registration} (hfind : registry.find? key = some registration) :
    Declaration.Consistent registration.events ∧ Declaration.Consistent registration.errors := by
  obtain ⟨before, after, hentries, -⟩ := List.lookup_eq_some_iff.mp hfind
  exact h (key, registration) (by rw [hentries]; simp)

end Registry

/-- A call that registers a module. -/
inductive Registering where
  | core (module : TypeTag) (events errors : List Declaration)
  | extension (key : ExtensionKey) (module : TypeTag) (events errors : List Declaration)

namespace Registering

/-- Makes the call. -/
def perform : Registering → Step Registry Bool
  | .core module events errors => Registry.registerCore module events errors
  | .extension key module events errors => Registry.register key module events errors

/-- The key that the module is to be registered under. -/
def key : Registering → ExtensionKey
  | .core .. => .core
  | .extension key .. => key

/-- What is to be known of the module. -/
def declared : Registering → Registration
  | .core module events errors | .extension _ module events errors => ⟨module, events, errors⟩

/-- An extension is to be registered under the core's key. -/
def TakesCoreKey : Registering → Prop
  | .core .. => False
  | .extension key .. => key = .core

/-- The call may be made: it leaves the core's key to the core, and neither of its lists contradicts
itself. -/
structure Valid (r : Registering) : Prop where
  key_ok : ¬ r.TakesCoreKey
  events_consistent : Declaration.Consistent r.declared.events
  errors_consistent : Declaration.Consistent r.declared.errors

/-- The ends of a call, each with the registry that it leaves. -/
inductive Ends (r : Registering) (registry : Registry) : Except Fault Bool → Registry → Prop where
  /-- The core's key is no extension's. -/
  | coreKey (hkey : r.TakesCoreKey) :
    Ends r registry (.error (.invalidExtension .coreKey)) registry
  /-- One of the lists contradicts itself; it does not matter whether the key is taken. -/
  | conflicting (conflict : DeclarationConflict) (hinvalid : ¬ r.Valid) (hkey : ¬ r.TakesCoreKey) :
    Ends r registry (.error (.invalidExtension (.conflict conflict))) registry
  /-- The key is taken. -/
  | late (hvalid : r.Valid) (htaken : registry.contains r.key = true) :
    Ends r registry (.ok false) registry
  /-- The module is registered. -/
  | first (hvalid : r.Valid) (hfree : registry.contains r.key = false) :
    Ends r registry (.ok true) (registry.insert r.key r.declared)

theorem Ends.of_conflict {r : Registering} {registry : Registry} {conflict : DeclarationConflict}
    (hkey : ¬ r.TakesCoreKey)
    (h : ¬ (Declaration.Consistent r.declared.events ∧ Declaration.Consistent r.declared.errors)) :
    Ends r registry (.error (.invalidExtension (.conflict conflict))) registry :=
  .conflicting conflict (fun hvalid => h ⟨hvalid.events_consistent, hvalid.errors_consistent⟩) hkey

/-- Every call ends in one of these ways. -/
theorem perform_ends (r : Registering) (registry : Registry) :
    Ends r registry (r.perform registry).result (r.perform registry).state := by
  cases r with
  | core module events errors =>
    have hkey : ¬ TakesCoreKey (.core module events errors) := not_false
    rw [perform, Registry.registerCore]
    by_cases h : Declaration.Consistent events ∧ Declaration.Consistent errors
    · have hvalid : Valid (.core module events errors) := ⟨hkey, h.1, h.2⟩
      rw [Step.liftM_ok_bind (Registration.checked_eq_ok_iff.mpr ⟨h, rfl⟩), Step.read_bind]
      cases htaken : registry.hasCore with
      | true => exact .late hvalid htaken
      | false => exact .first hvalid htaken
    · obtain ⟨conflict, hchecked⟩ := Registration.checked_of_not_consistent h .core module
      rw [Step.liftM_error_bind hchecked]
      exact .of_conflict hkey h
  | extension key module events errors =>
    rw [perform, Registry.register]
    by_cases hcore : key = .core
    · subst hcore
      exact .coreKey rfl
    · have hkey : ¬ TakesCoreKey (.extension key module events errors) := hcore
      simp only [ExtensionKey.isCore_of_ne hcore, Bool.false_eq_true, if_false]
      by_cases h : Declaration.Consistent events ∧ Declaration.Consistent errors
      · have hvalid : Valid (.extension key module events errors) := ⟨hkey, h.1, h.2⟩
        rw [Step.liftM_ok_bind (Registration.checked_eq_ok_iff.mpr ⟨h, rfl⟩), Step.read_bind]
        cases htaken : registry.contains key with
        | true => exact .late hvalid htaken
        | false => exact .first hvalid htaken
      · obtain ⟨conflict, hchecked⟩ := Registration.checked_of_not_consistent h key module
        rw [Step.liftM_error_bind hchecked]
        exact .of_conflict hkey h

/-- A call leaves the registry as it is, or adds a registration that contradicts itself nowhere. -/
theorem state_cases (r : Registering) (registry : Registry) :
    (r.perform registry).state = registry ∨
    ∃ key registration, Declaration.Consistent registration.events ∧
      Declaration.Consistent registration.errors ∧
      (r.perform registry).state = registry.insert key registration := by
  have hends := r.perform_ends registry
  generalize (r.perform registry).result = result at hends
  generalize (r.perform registry).state = state at hends ⊢
  cases hends with
  | coreKey | conflicting | late => exact .inl rfl
  | first hvalid =>
    exact .inr ⟨_, _, hvalid.events_consistent, hvalid.errors_consistent, rfl⟩

theorem consistent_state {registry : Registry} (h : registry.Consistent) (r : Registering) :
    (r.perform registry).state.Consistent := by
  rcases r.state_cases registry with hsame | ⟨key, registration, hevents, herrors, hinsert⟩
  · rwa [hsame]
  · rw [hinsert]
    exact h.insert hevents herrors

end Registering

namespace Registry

/-- The registry after some calls. -/
def after (registry : Registry) (calls : List Registering) : Registry :=
  calls.foldl (fun registry call => (call.perform registry).state) registry

theorem after_append (registry : Registry) (calls calls' : List Registering) :
    registry.after (calls ++ calls') = (registry.after calls).after calls' :=
  List.foldl_append

theorem Consistent.after {registry : Registry} (h : registry.Consistent)
    (calls : List Registering) : (registry.after calls).Consistent := by
  induction calls generalizing registry with
  | nil => exact h
  | cons call calls ih => exact ih (call.consistent_state h)

end Registry

end DisplayClient
