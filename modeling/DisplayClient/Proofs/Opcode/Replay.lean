import DisplayClient.Proofs.Opcode.Placement
import Mathlib.Data.List.Basic
import Mathlib.Data.List.Induction

/-!
# Tables as the record of what went into them

An `Insertion` is one call of `OpcodeTables.insertModule`; `replay` makes a
list of such calls, in order, on empty tables. If all of them fit and
contradict themselves nowhere, the tables show what the list says
(`holdsLatest_replay`): a slot is taken exactly if some insertion declares
it, and then it holds the type that the latest of those declares.
-/

namespace DisplayClient

open Declaration (Consistent)

namespace OpcodeTable

/-- Whether a list of declarations, at a base, has one for the opcode. -/
def Declares (base : UInt8) (ds : List Declaration) (opcode : UInt8) : Prop :=
  ∃ d ∈ ds, base.toNat + d.number.toNat = opcode.toNat

theorem lastAt?_of_not_declares {base : UInt8} {ds : List Declaration} {opcode : UInt8}
    (h : ¬ Declares base ds opcode) : lastAt? base ds opcode = none :=
  lastAt?_eq_none_iff.mpr fun d hd hslot => h ⟨d, hd, hslot⟩

/-- The table is what the lists of declarations say, each at its base: a slot that none of them
declares is empty, and one that some declare holds the type of the latest. -/
structure HoldsLatest (table : OpcodeTable) (lists : List (UInt8 × List Declaration)) : Prop where
  get?_eq_none_iff (opcode : UInt8) :
    table.get? opcode = none ↔ ∀ p ∈ lists, ¬ Declares p.1 p.2 opcode
  get?_of_latest {earlier later : List (UInt8 × List Declaration)} {base : UInt8}
    {ds : List Declaration} {d : Declaration} {opcode : UInt8} :
    lists = earlier ++ (base, ds) :: later → d ∈ ds →
    base.toNat + d.number.toNat = opcode.toNat → (∀ p ∈ later, ¬ Declares p.1 p.2 opcode) →
    table.get? opcode = some d.type

theorem holdsLatest_empty : HoldsLatest .empty [] where
  get?_eq_none_iff opcode := by simp [get?, empty]
  get?_of_latest h := by simp at h

theorem HoldsLatest.placeAll {table : OpcodeTable} {lists : List (UInt8 × List Declaration)}
    (h : HoldsLatest table lists) {base : UInt8} {ds : List Declaration} (hfits : Fits base ds)
    (hds : Consistent ds) : HoldsLatest (placeAll base ds table) (lists ++ [(base, ds)]) where
  get?_eq_none_iff opcode := by
    rw [get?_placeAll hfits, Option.or_eq_none_iff, h.get?_eq_none_iff, lastAt?_eq_none_iff]
    simp [Declares, or_imp, forall_and, and_comm]
  get?_of_latest {earlier later base' ds' d opcode} hlists hd hslot hlater := by
    rw [get?_placeAll hfits]
    rcases List.eq_nil_or_concat' later with rfl | ⟨rest, p, rfl⟩
    · -- The declaration is one of those that were placed last.
      obtain ⟨-, hlast⟩ := List.append_inj' hlists rfl
      obtain ⟨rfl, rfl⟩ := Prod.mk.inj (List.singleton_inj.mp hlast)
      rw [lastAt?_of_mem hds hd hslot, Option.some_or]
    · -- What was placed last leaves the slot as it was.
      rw [← List.cons_append, ← List.append_assoc] at hlists
      obtain ⟨hearlier, hlast⟩ := List.append_inj' hlists rfl
      have hp : (base, ds) = p := List.singleton_inj.mp hlast
      subst hp
      have hnone : lastAt? base ds opcode = none :=
        lastAt?_of_not_declares (hlater (base, ds) (by simp))
      rw [hnone, Option.none_or]
      exact h.get?_of_latest hearlier hd hslot fun p hp => hlater p (by simp [hp])

end OpcodeTable

/-- A module's declarations, at the bases that they were given. -/
structure Insertion where
  firstEvent : UInt8
  events : List Declaration
  firstError : UInt8
  errors : List Declaration
  deriving DecidableEq

namespace Insertion

open OpcodeTable

/-- The tables after the insertion. -/
def apply (i : Insertion) (tables : OpcodeTables) : OpcodeTables :=
  (OpcodeTables.insertModule i.firstEvent i.events i.firstError i.errors tables).state

/-- The insertion fits both tables, and gives no number two types. -/
structure Sound (i : Insertion) : Prop where
  events_fit : Fits i.firstEvent i.events
  errors_fit : Fits i.firstError i.errors
  events_consistent : Consistent i.events
  errors_consistent : Consistent i.errors

theorem apply_of_fits {i : Insertion} (hevents : Fits i.firstEvent i.events)
    (herrors : Fits i.firstError i.errors) (tables : OpcodeTables) :
    i.apply tables = tables.place i.firstEvent i.events i.firstError i.errors := by
  obtain ⟨lines, h⟩ := OpcodeTables.insertModule_of_fits hevents herrors tables
  rw [apply, h]

/-- Makes insertions one after the other, on empty tables. -/
def replay (history : List Insertion) : OpcodeTables :=
  history.foldl (fun tables i => i.apply tables) .empty

theorem replay_concat (history : List Insertion) (i : Insertion) :
    replay (history ++ [i]) = i.apply (replay history) := by
  simp only [replay, List.foldl_append, List.foldl_cons, List.foldl_nil]

/-- Where the events of an insertion went. -/
def eventList (i : Insertion) : UInt8 × List Declaration := (i.firstEvent, i.events)

/-- Where the errors of an insertion went. -/
def errorList (i : Insertion) : UInt8 × List Declaration := (i.firstError, i.errors)

theorem holdsLatest_replay {history : List Insertion} (h : ∀ i ∈ history, i.Sound) :
    (replay history).events.HoldsLatest (history.map eventList) ∧
      (replay history).errors.HoldsLatest (history.map errorList) := by
  induction history using List.reverseRecOn with
  | nil => exact ⟨holdsLatest_empty, holdsLatest_empty⟩
  | append_singleton history i ih =>
    obtain ⟨hevents, herrors⟩ := ih fun j hj => h j (List.mem_append_left _ hj)
    have hi := h i (List.mem_append_right _ List.mem_cons_self)
    rw [replay_concat, apply_of_fits hi.events_fit hi.errors_fit, List.map_append,
      List.map_append]
    exact ⟨hevents.placeAll hi.events_fit hi.events_consistent,
      herrors.placeAll hi.errors_fit hi.errors_consistent⟩

end Insertion

end DisplayClient
