import DisplayClient.Proofs.Extension.Registered

/-!
# The conflict that a refusal names

A list of declarations that contradicts itself does so at some position first
(`Declaration.FirstConflict`). Checking goes through the list once, and keeps
of the positions before it what it needs: up to the first conflict they agree,
so that any of them tells the type of its number
(`Registration.conflictAfter?_eq_some`). A refusal therefore names the first
conflict of the events, or that of the errors if the events have none
(`Registration.Explains`), and every call that registers a module passes on
what the check said (`Registering.perform_of_refused`).
-/

namespace DisplayClient

open Declaration (Consistent)

/-- What messages call an entry of the list. -/
def DeclaredList.item : DeclaredList → String
  | .events => "event"
  | .errors => "error"

namespace Declaration

/-- The number at position `j` has another type at an earlier position. -/
def ConflictsAt (ds : List Declaration) (j : Nat) : Prop :=
  ∃ i < j, ∃ earlier later, ds[i]? = some earlier ∧ ds[j]? = some later ∧
    earlier.number = later.number ∧ earlier.type ≠ later.type

/-- Position `j`, where `later` stands, is the first that conflicts with an earlier one, and
`earlier` is the type that the number has wherever it stands before. -/
structure FirstConflict (ds : List Declaration) (j : Nat) (earlier : TypeTag)
    (later : Declaration) : Prop where
  later_eq : ds[j]? = some later
  conflicts : ConflictsAt ds j
  not_before {k : Nat} : k < j → ¬ ConflictsAt ds k
  shared {i : Nat} {d : Declaration} :
    i < j → ds[i]? = some d → d.number = later.number → d.type = earlier

variable {before after : List Declaration}

theorem Consistent.not_conflictsAt (h : Consistent before) {k : Nat} (hk : k < before.length) :
    ¬ ConflictsAt (before ++ after) k := by
  rintro ⟨i, hi, earlier, later, hearlier, hlater, hnumber, htype⟩
  rw [List.getElem?_append_left (Nat.lt_trans hi hk)] at hearlier
  rw [List.getElem?_append_left hk] at hlater
  exact htype (h earlier (List.mem_of_getElem? hearlier) later (List.mem_of_getElem? hlater) hnumber)

theorem getElem?_length_append {later : Declaration} :
    (before ++ later :: after)[before.length]? = some later := by
  rw [List.getElem?_append_right (Nat.le_refl _), Nat.sub_self, List.getElem?_cons_zero]

/-- Where a consistent list goes on with another type for one of its numbers. -/
theorem firstConflict_of_append (h : Consistent before) {d later : Declaration} (hd : d ∈ before)
    (hnumber : d.number = later.number) (htype : d.type ≠ later.type) :
    FirstConflict (before ++ later :: after) before.length d.type later where
  later_eq := getElem?_length_append
  conflicts := by
    obtain ⟨i, hi, rfl⟩ := List.getElem_of_mem hd
    refine ⟨i, hi, before[i], later, ?_, getElem?_length_append, hnumber, htype⟩
    rw [List.getElem?_append_left hi, List.getElem?_eq_getElem hi]
  not_before := h.not_conflictsAt
  shared hi hget heq := by
    rw [List.getElem?_append_left hi] at hget
    exact h _ (List.mem_of_getElem? hget) d hd (heq.trans hnumber.symm)

end Declaration

open Declaration (FirstConflict)

namespace Registration

variable {seen ds events errors : List Declaration} {key : ExtensionKey} {module : TypeTag}
  {fault : Fault}

/-- By induction on the list: what was seen is the positions so far, the last of them first. -/
theorem conflictAfter?_eq_some (hseen : Consistent seen) {later : Declaration} {earlier : TypeTag}
    (h : conflictAfter? seen ds = some (later, earlier)) :
    ∃ before after, ds = before ++ later :: after ∧ Consistent (before.reverse ++ seen) ∧
      ∃ d ∈ before.reverse ++ seen, d.number = later.number ∧ d.type ≠ later.type ∧
        d.type = earlier := by
  induction ds generalizing seen with
  | nil => cases h
  | cons d ds ih =>
    rcases conflictAfter?_cons_cases hseen d ds with ⟨hnext, heq⟩ |
      ⟨d', hmem, hnumber, htype, heq⟩
    · rw [heq] at h
      obtain ⟨before, after, rfl, hbefore, hearlier⟩ := ih hnext h
      refine ⟨d :: before, after, rfl, ?_⟩
      rw [List.reverse_cons, List.append_assoc]
      exact ⟨hbefore, hearlier⟩
    · rw [heq] at h
      cases h
      exact ⟨[], ds, rfl, hseen, d', hmem, hnumber, htype, rfl⟩

theorem firstConflict_of_conflictAfter? {later : Declaration} {earlier : TypeTag}
    (h : conflictAfter? [] ds = some (later, earlier)) :
    ∃ j, FirstConflict ds j earlier later := by
  have hnil : Consistent [] := fun _ hd => absurd hd List.not_mem_nil
  obtain ⟨before, after, rfl, hbefore, d, hd, hnumber, htype, rfl⟩ := conflictAfter?_eq_some hnil h
  rw [List.append_nil] at hbefore hd
  have hconsistent : Consistent before := hbefore.of_mem fun d hd => List.mem_reverse.mpr hd
  exact ⟨before.length,
    Declaration.firstConflict_of_append hconsistent (List.mem_reverse.mp hd) hnumber htype⟩

/-- The fault names the first conflict of a list, and its text says so. -/
def NamesFirst (key : ExtensionKey) (list : DeclaredList) (ds : List Declaration)
    (fault : Fault) : Prop :=
  ∃ j earlier later, FirstConflict ds j earlier later ∧
    fault = .invalidExtension (.conflict ⟨key, list, later.number, earlier, later.type⟩) ∧
    fault.message = "Invalid extension: " ++ (key.text ++ ": " ++ list.item ++ " " ++
      toString later.number ++ " declared as both " ++ earlier.name ++ " and " ++ later.type.name)

theorem namesFirst_of_checkList {list : DeclaredList} (h : checkList key list ds = .error fault) :
    NamesFirst key list ds fault := by
  rw [checkList] at h
  split at h
  · cases h
  · rename_i later earlier hconflict
    cases h
    obtain ⟨j, hj⟩ := firstConflict_of_conflictAfter? hconflict
    refine ⟨j, earlier, later, hj, rfl, ?_⟩
    cases list <;> rfl

theorem not_consistent_of_checkList {list : DeclaredList}
    (h : checkList key list ds = .error fault) : ¬ Consistent ds := by
  intro hds
  rw [(checkList_eq_ok_iff key list).mpr hds] at h
  cases h

/-- The fault is that of the events if they contradict each other, and else that of the errors. -/
structure Explains (key : ExtensionKey) (events errors : List Declaration) (fault : Fault) :
    Prop where
  of_events : ¬ Consistent events → NamesFirst key .events events fault
  of_errors : Consistent events → NamesFirst key .errors errors fault

theorem explains_of_checked (h : checked key module events errors = .error fault) :
    Explains key events errors fault := by
  rw [checked] at h
  cases hevents : checkList key .events events with
  | error fault' =>
    rw [hevents] at h
    cases h
    exact ⟨fun _ => namesFirst_of_checkList hevents,
      fun hds => absurd hds (not_consistent_of_checkList hevents)⟩
  | ok u =>
    have hds : Consistent events := (checkList_eq_ok_iff key .events).mp hevents
    cases herrors : checkList key .errors errors with
    | ok v =>
      rw [hevents, herrors] at h
      cases h
    | error fault' =>
      rw [hevents, herrors] at h
      cases h
      exact ⟨fun hnot => absurd hds hnot, fun _ => namesFirst_of_checkList herrors⟩

theorem exists_checked_iff : (∃ registration, checked key module events errors = .ok registration) ↔
    Consistent events ∧ Consistent errors := by
  constructor
  · rintro ⟨registration, h⟩
    exact (checked_eq_ok_iff.mp h).1
  · intro h
    exact ⟨_, checked_eq_ok_iff.mpr ⟨h, rfl⟩⟩

end Registration

namespace Registering

variable {r : Registering} {registry : Registry}

/-- What the check of the declarations says. -/
def check (r : Registering) : Except Fault Registration :=
  Registration.checked r.key r.declared.module r.declared.events r.declared.errors

/-- What the check refuses is refused for the reason that the check gives. -/
theorem perform_of_refused (hkey : ¬ r.TakesCoreKey) {fault : Fault} (h : r.check = .error fault) :
    r.perform registry = ⟨.error fault, registry, []⟩ := by
  cases r with
  | core module events errors =>
    rw [perform, Registry.registerCore]
    exact Step.liftM_error_bind h _ registry
  | extension key module events errors =>
    rw [perform, Registry.register]
    simp only [ExtensionKey.isCore_of_ne hkey, Bool.false_eq_true, if_false]
    exact Step.liftM_error_bind h _ registry

/-- What the check accepts is accepted, whether or not it comes too late. -/
theorem perform_of_checked (registry : Registry) (hkey : ¬ r.TakesCoreKey)
    {registration : Registration} (h : r.check = .ok registration) :
    ∃ first, (r.perform registry).result = .ok first := by
  obtain ⟨⟨hevents, herrors⟩, -⟩ := Registration.checked_eq_ok_iff.mp h
  have hvalid : r.Valid := ⟨hkey, hevents, herrors⟩
  have hends := r.perform_ends registry
  generalize (r.perform registry).result = result at hends ⊢
  generalize (r.perform registry).state = state at hends
  cases hends with
  | coreKey hcore => exact absurd hcore hkey
  | conflicting _ hinvalid => exact absurd hvalid hinvalid
  | late => exact ⟨false, rfl⟩
  | first => exact ⟨true, rfl⟩

theorem exists_perform_iff (hkey : ¬ r.TakesCoreKey) :
    (∃ first, (r.perform registry).result = .ok first) ↔
      Consistent r.declared.events ∧ Consistent r.declared.errors := by
  have hchecked : (∃ registration, r.check = .ok registration) ↔
      Consistent r.declared.events ∧ Consistent r.declared.errors := Registration.exists_checked_iff
  rw [← hchecked]
  constructor
  · rintro ⟨first, hfirst⟩
    cases hcheck : r.check with
    | ok registration => exact ⟨registration, rfl⟩
    | error fault =>
      rw [perform_of_refused hkey hcheck] at hfirst
      cases hfirst
  · rintro ⟨registration, hcheck⟩
    exact perform_of_checked registry hkey hcheck

theorem explains_of_perform (hkey : ¬ r.TakesCoreKey) {fault : Fault}
    (h : (r.perform registry).result = .error fault) :
    Registration.Explains r.key r.declared.events r.declared.errors fault := by
  cases hcheck : r.check with
  | ok registration =>
    obtain ⟨first, hfirst⟩ := perform_of_checked registry hkey hcheck
    rw [h] at hfirst
    cases hfirst
  | error fault' =>
    rw [perform_of_refused hkey hcheck] at h
    cases h
    exact Registration.explains_of_checked hcheck

end Registering

end DisplayClient
