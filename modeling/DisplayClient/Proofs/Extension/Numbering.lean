import DisplayClient.Proofs.Extension.Resolution
import Mathlib.Data.List.Nodup

/-!
# Instances by their serials

The instances that a connection keeps are numbered in the order in which they
were made, from 0 on and without gaps (`KnownExtensions.Numbered`), whatever
extensions it asks for (`Resolver.Ends.numbered`). A serial therefore stands
for one instance, and for one key (`Numbered.serial_eq_iff`).
-/

namespace DisplayClient

namespace KnownExtensions

/-- The instances that are kept, in the order in which they were made. -/
def kept (known : KnownExtensions) : List Extension := known.core.toList ++ known.resolved

/-- The kept instances are numbered in order, and the core has its own key. -/
structure Numbered (known : KnownExtensions) : Prop where
  serials_eq : known.kept.map Extension.serial = List.range known.instances
  core_key {core : Extension} : known.core = some core → core.key = .core

theorem Numbered.insert {known : KnownExtensions} (h : known.Numbered) {e : Extension}
    (he : e.serial = known.instances) : (known.insert e).Numbered where
  serials_eq := by
    have hkept : (known.insert e).kept = known.kept ++ [e] := (List.append_assoc _ _ _).symm
    have hinstances : (known.insert e).instances = known.instances + 1 := rfl
    rw [hkept, hinstances, List.map_append, h.serials_eq, List.range_succ, ← he]
    rfl
  core_key hcore := h.core_key hcore

theorem Numbered.insertAbsent {known : KnownExtensions} (h : known.Numbered)
    (key : ExtensionKey) : (known.insertAbsent key).Numbered where
  serials_eq := h.serials_eq
  core_key hcore := h.core_key hcore

/-- An extension that settles a question is kept. -/
theorem mem_kept_of_settled? {known : KnownExtensions} {key : ExtensionKey} {e : Extension}
    (h : known.settled? key = some (.ok e)) : e ∈ known.kept := by
  by_cases hkey : key = .core
  · subst hkey
    simp [kept, core_of_settled? h]
  · have hmem := List.mem_of_find?_eq_some (find?_of_settled? hkey h)
    exact List.mem_append_right _ hmem

/-- An extension that settles a question has the key that the question was for. -/
theorem Numbered.key_of_settled? {known : KnownExtensions} (hnumbered : known.Numbered)
    {key : ExtensionKey} {e : Extension} (h : known.settled? key = some (.ok e)) : e.key = key := by
  by_cases hkey : key = .core
  · subst hkey
    exact hnumbered.core_key (core_of_settled? h)
  · exact key_of_find? (find?_of_settled? hkey h)

theorem Numbered.eq_of_serial_eq {known : KnownExtensions} (hnumbered : known.Numbered)
    {e e' : Extension} (he : e ∈ known.kept) (he' : e' ∈ known.kept)
    (hserial : e.serial = e'.serial) : e = e' := by
  have hnodup : (known.kept.map Extension.serial).Nodup := by
    rw [hnumbered.serials_eq]
    exact List.nodup_range
  exact List.inj_on_of_nodup_map hnodup he he' hserial

/-- One instance answers for one key. -/
theorem Numbered.serial_eq_iff {known : KnownExtensions} (hnumbered : known.Numbered)
    {key key' : ExtensionKey} {e e' : Extension} (h : known.settled? key = some (.ok e))
    (h' : known.settled? key' = some (.ok e')) : e.serial = e'.serial ↔ key = key' := by
  constructor
  · intro hserial
    have he : e = e' := hnumbered.eq_of_serial_eq (mem_kept_of_settled? h)
      (mem_kept_of_settled? h') hserial
    rw [← hnumbered.key_of_settled? h, ← hnumbered.key_of_settled? h', he]
  · rintro rfl
    rw [h] at h'
    cases h'
    rfl

end KnownExtensions

namespace Resolver

variable {σ : Type} {registry : Registry} {key : ExtensionKey}
  {query : ExtensionKey → Step σ Presence}

/-- A question leaves the instances numbered. -/
theorem Ends.numbered {resolver : Resolver} {server : σ}
    {outcome : Outcome (Resolver × σ) Extension}
    (h : Ends registry key query resolver server outcome) (hnumbered : resolver.known.Numbered) :
    outcome.state.1.known.Numbered := by
  cases h with
  | settled | unknown | unanswered | crowded => exact hnumbered
  | absent => exact hnumbered.insertAbsent key
  | resolved => exact hnumbered.insert rfl

end Resolver

end DisplayClient
