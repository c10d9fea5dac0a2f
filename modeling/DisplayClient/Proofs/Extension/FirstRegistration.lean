import DisplayClient.Proofs.Extension.Registered

/-!
# The first valid registration of a key stands

A registry knows of a key what the first valid call for it declared
(`Registering.first?`, `Registry.find?_after`). What is known is known for
good (`Registry.find?_after_of_some`), and a call for one key is no matter of
another (`Registering.Ends.find?_state`). So the calls before it say how a
call is answered: it is the first valid one for its key, or it changes nothing
(`Registering.AnsweredAfter`, `Registering.Ends.answeredAfter`).
-/

namespace DisplayClient

namespace Registering

instance (r : Registering) : Decidable r.TakesCoreKey :=
  match r with
  | .core .. => isFalse not_false
  | .extension key .. => inferInstanceAs (Decidable (key = .core))

instance (r : Registering) : Decidable r.Valid :=
  decidable_of_iff (¬ r.TakesCoreKey ∧ Declaration.Consistent r.declared.events ∧
      Declaration.Consistent r.declared.errors)
    ⟨fun h => ⟨h.1, h.2.1, h.2.2⟩, fun h => ⟨h.1, h.2, h.3⟩⟩

/-- The call is valid, and it is for the key. -/
def ValidFor (key : ExtensionKey) (r : Registering) : Prop := r.Valid ∧ r.key = key

instance (key : ExtensionKey) (r : Registering) : Decidable (r.ValidFor key) :=
  inferInstanceAs (Decidable (_ ∧ _))

/-- The first valid call for a key. -/
def first? (calls : List Registering) (key : ExtensionKey) : Option Registering :=
  calls.find? fun r => decide (r.ValidFor key)

theorem first?_cons (r : Registering) (calls : List Registering) (key : ExtensionKey) :
    first? (r :: calls) key = if r.ValidFor key then some r else first? calls key := by
  rw [first?, List.find?_cons]
  by_cases h : r.ValidFor key <;> simp [h, first?]

theorem first?_isSome_iff {calls : List Registering} {key : ExtensionKey} :
    (first? calls key).isSome = true ↔ ∃ r ∈ calls, r.ValidFor key := by
  simp [first?]

end Registering

namespace Registry

theorem find?_insert (registry : Registry) (key : ExtensionKey) (registration : Registration)
    (key' : ExtensionKey) :
    (registry.insert key registration).find? key' =
      (registry.find? key').or (if key = key' then some registration else none) := by
  simp only [find?, insert, List.lookup_append]
  by_cases h : key = key'
  · subst h
    rw [List.lookup_cons_self, if_pos rfl]
  · have hne : (key' == key) = false := beq_eq_false_iff_ne.mpr (Ne.symm h)
    simp only [List.lookup_cons, hne, List.lookup_nil, h, if_false]

end Registry

namespace Registering

variable {r : Registering} {registry state : Registry} {result : Except Fault Bool}

/-- A call adds what it declares if it is valid and its key is free, and nothing else. -/
theorem Ends.find?_state (h : Ends r registry result state) (key : ExtensionKey) :
    state.find? key =
      (registry.find? key).or (if r.ValidFor key then some r.declared else none) := by
  have hinvalid (h : ¬ r.Valid) : ¬ r.ValidFor key := fun hfor => h hfor.1
  cases h with
  | coreKey hkey => rw [if_neg (hinvalid fun hvalid => hvalid.key_ok hkey), Option.or_none]
  | conflicting conflict h => rw [if_neg (hinvalid h), Option.or_none]
  | late hvalid htaken =>
    split
    next hfor =>
      obtain ⟨registration, hfound⟩ := Option.isSome_iff_exists.mp (hfor.2 ▸ htaken)
      rw [hfound, Option.some_or]
    next => rw [Option.or_none]
  | first hvalid =>
    rw [Registry.find?_insert]
    simp only [ValidFor, hvalid, true_and]

end Registering

namespace Registry

open Registering (first?)

/-- By induction on the calls: what a call adds is known from then on, and only if nothing was. -/
theorem find?_after (registry : Registry) (calls : List Registering) (key : ExtensionKey) :
    (registry.after calls).find? key =
      (registry.find? key).or ((first? calls key).map Registering.declared) := by
  induction calls generalizing registry with
  | nil => simp [after, first?]
  | cons r calls ih =>
    have hrest : registry.after (r :: calls) = (r.perform registry).state.after calls := rfl
    rw [hrest, ih, (r.perform_ends registry).find?_state, Option.or_assoc, Registering.first?_cons]
    split <;> rfl

/-- What is known of a key is known for good. -/
theorem find?_after_of_some {registry : Registry} {key : ExtensionKey}
    {registration : Registration} (h : registry.find? key = some registration)
    (calls : List Registering) : (registry.after calls).find? key = some registration := by
  rw [find?_after, h, Option.some_or]

theorem find?_after_empty (calls : List Registering) (key : ExtensionKey) :
    (empty.after calls).find? key = (first? calls key).map Registering.declared := by
  rw [find?_after]
  rfl

theorem contains_after_iff (calls : List Registering) (key : ExtensionKey) :
    (empty.after calls).contains key = true ↔ ∃ r ∈ calls, r.ValidFor key := by
  rw [contains, find?_after_empty, Option.isSome_map, Registering.first?_isSome_iff]

end Registry

namespace Registering

variable {before : List Registering} {r : Registering} {result : Except Fault Bool}
  {state : Registry}

/-- How a call is answered that comes after the calls `before`, and the registry that it leaves. -/
structure AnsweredAfter (before : List Registering) (r : Registering) (result : Except Fault Bool)
    (state : Registry) : Prop where
  /-- The first valid call for its key registers its module. -/
  of_first : r.Valid → (∀ r' ∈ before, ¬ r'.ValidFor r.key) →
    result = .ok true ∧ state.find? r.key = some r.declared
  /-- A later one is told that it came too late. -/
  of_late : r.Valid → (∃ r' ∈ before, r'.ValidFor r.key) →
    result = .ok false ∧ state = Registry.empty.after before
  /-- A call that is not valid is refused, the first of its key or not. -/
  of_invalid : ¬ r.Valid →
    (∃ cause, result = .error (.invalidExtension cause)) ∧ state = Registry.empty.after before
  of_core_key : r.TakesCoreKey → result = .error (.invalidExtension .coreKey)
  /-- A call for one key is no matter of the others. -/
  find?_of_ne (key : ExtensionKey) : key ≠ r.key →
    state.find? key = (Registry.empty.after before).find? key

theorem Ends.answeredAfter (h : Ends r (Registry.empty.after before) result state) :
    AnsweredAfter before r result state := by
  have hstate := h.find?_state
  have htaken := Registry.contains_after_iff before r.key
  refine ⟨fun hvalid hnew => ?_, fun hvalid hold => ?_, fun hinvalid => ?_, fun hkey => ?_,
    fun key hne => ?_⟩
  · have hfree : ¬ (Registry.empty.after before).contains r.key = true := fun h =>
      have ⟨r', hr', hfor⟩ := htaken.mp h
      hnew r' hr' hfor
    cases h with
    | coreKey hkey => exact absurd hkey hvalid.key_ok
    | conflicting conflict hinvalid => exact absurd hvalid hinvalid
    | late _ htaken => exact absurd htaken hfree
    | first =>
      refine ⟨rfl, ?_⟩
      have hnone : (Registry.empty.after before).find? r.key = none := by
        simpa [Registry.contains] using hfree
      rw [hstate, hnone, Option.none_or, if_pos ⟨hvalid, rfl⟩]
  · cases h with
    | coreKey hkey => exact absurd hkey hvalid.key_ok
    | conflicting conflict hinvalid => exact absurd hvalid hinvalid
    | late => exact ⟨rfl, rfl⟩
    | first _ hfree =>
      rw [htaken.mpr hold] at hfree
      cases hfree
  · cases h with
    | coreKey | conflicting => exact ⟨⟨_, rfl⟩, rfl⟩
    | late hvalid | first hvalid => exact absurd hvalid hinvalid
  · cases h with
    | coreKey => rfl
    | conflicting _ _ hnot => exact absurd hkey hnot
    | late hvalid | first hvalid => exact absurd hkey hvalid.key_ok
  · have hfor : ¬ r.ValidFor key := fun hfor => hne hfor.2.symm
    rw [hstate, if_neg hfor, Option.or_none]

end Registering

end DisplayClient
