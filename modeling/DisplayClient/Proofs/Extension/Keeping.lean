import DisplayClient.Proofs.Extension.FirstRegistration
import DisplayClient.Proofs.Extension.Resolution
import Mathlib.Data.List.Dedup
import Mathlib.Data.List.DropRight

/-!
# What is kept of extensions

A `Keeper` is a resolver with the registry that it asks and the server behind
it. The core is taken up, extensions are asked for, all is forgotten, and
modules are registered in between (`Keeper.Call`). Whatever the calls are, what
is kept agrees with the registry (`KnownExtensions.Agrees`), and it is what the
questions came to that were asked since all was forgotten
(`Keeper.Remembers`): of each extension there is one instance, made of what the
registry and the server said of it.

* `Resolver.Ends.agrees`, `Keeper.Remembers.ask`: what a question preserves;
* `Keeper.agrees_run`, `Keeper.remembers_run`: what any calls preserve.
-/

namespace DisplayClient

theorem Registry.contains_of_find? {registry : Registry} {key : ExtensionKey}
    {registration : Registration} (h : registry.find? key = some registration) :
    registry.contains key = true := by
  rw [contains, h]
  rfl

namespace KnownExtensions

/-- The keys of the extensions that were resolved. -/
def keys (known : KnownExtensions) : List ExtensionKey := known.resolved.map Extension.key

theorem find?_eq_none_iff {known : KnownExtensions} {key : ExtensionKey} :
    known.find? key = none ↔ key ∉ known.keys := by
  simp [find?, keys, List.find?_eq_none]

theorem mem_keys_iff {known : KnownExtensions} {key : ExtensionKey} :
    key ∈ known.keys ↔ ∃ e, known.find? key = some e := by
  rw [← Option.ne_none_iff_exists', ne_eq, find?_eq_none_iff, not_not]

/-- What is kept is of registered extensions, and of each there is one thing: that it was resolved,
or that it is absent. The core is kept apart. -/
structure Agrees (registry : Registry) (known : KnownExtensions) : Prop where
  core_not_resolved : .core ∉ known.keys
  core_not_absent : .core ∉ known.absent
  disjoint : known.keys.Disjoint known.absent
  nodup_keys : known.keys.Nodup
  registered {key : ExtensionKey} :
    key ∈ known.keys ∨ key ∈ known.absent → registry.contains key = true

variable {registry registry' : Registry} {known : KnownExtensions}

/-- All is forgotten, and nothing is kept. -/
theorem agrees_clear (registry : Registry) (known : KnownExtensions) :
    known.clear.Agrees registry where
  core_not_resolved := List.not_mem_nil
  core_not_absent := List.not_mem_nil
  disjoint := List.disjoint_nil_left _
  nodup_keys := List.nodup_nil
  registered h := h.elim (absurd · List.not_mem_nil) (absurd · List.not_mem_nil)

/-- More may be registered. -/
theorem Agrees.mono (hknown : known.Agrees registry)
    (h : ∀ key, registry.contains key = true → registry'.contains key = true) :
    known.Agrees registry' :=
  { hknown with registered := fun hkey => h _ (hknown.registered hkey) }

theorem Agrees.setCore (hknown : known.Agrees registry) (core : Extension) :
    (known.setCore core).Agrees registry :=
  { hknown with }

theorem Agrees.insert (hknown : known.Agrees registry) {e : Extension}
    (hunsettled : known.settled? e.key = none) (hregistered : registry.contains e.key = true) :
    (known.insert e).Agrees registry := by
  obtain ⟨hcore, hfree, habsent⟩ := settled?_eq_none_iff.mp hunsettled
  have hkeys : (known.insert e).keys = known.keys.concat e.key := by
    rw [List.concat_eq_append]
    exact List.map_append
  have hmem (key : ExtensionKey) :
      key ∈ (known.insert e).keys ↔ key ∈ known.keys ∨ key = e.key := by
    rw [hkeys, List.concat_eq_append, List.mem_append, List.mem_singleton]
  refine ⟨?_, hknown.core_not_absent, fun key hkey => ?_, ?_, fun {key} hkey => ?_⟩
  · rw [hmem, not_or]
    exact ⟨hknown.core_not_resolved, Ne.symm hcore⟩
  · rcases (hmem key).mp hkey with hold | rfl
    · exact hknown.disjoint hold
    · exact habsent
  · rw [hkeys]
    exact hknown.nodup_keys.concat (find?_eq_none_iff.mp hfree)
  · rw [hmem, or_right_comm] at hkey
    rcases hkey with hold | rfl
    · exact hknown.registered hold
    · exact hregistered

theorem Agrees.insertAbsent (hknown : known.Agrees registry) {key : ExtensionKey}
    (hunsettled : known.settled? key = none) (hregistered : registry.contains key = true) :
    (known.insertAbsent key).Agrees registry := by
  obtain ⟨hcore, hfree, -⟩ := settled?_eq_none_iff.mp hunsettled
  have hmem (key' : ExtensionKey) :
      key' ∈ (known.insertAbsent key).absent ↔ key' ∈ known.absent ∨ key' = key := by
    simp [KnownExtensions.insertAbsent]
  refine ⟨hknown.core_not_resolved, ?_, fun key' hkey' habsent => ?_, hknown.nodup_keys,
    fun {key'} hkey' => ?_⟩
  · rw [hmem, not_or]
    exact ⟨hknown.core_not_absent, Ne.symm hcore⟩
  · rcases (hmem key').mp habsent with hold | rfl
    · exact hknown.disjoint hkey' hold
    · exact find?_eq_none_iff.mp hfree hkey'
  · rw [hmem, ← or_assoc] at hkey'
    rcases hkey' with hold | rfl
    · exact hknown.registered hold
    · exact hregistered

end KnownExtensions

namespace Resolver

section Questions

variable {σ : Type} {registry : Registry} {key : ExtensionKey}
  {query : ExtensionKey → Step σ Presence} {resolver : Resolver} {server : σ}
  {outcome : Outcome (Resolver × σ) Extension}

theorem Asks.contains {registration : Registration}
    (h : Asks registry key resolver registration) : registry.contains key = true :=
  Registry.contains_of_find? h.registered

/-- A question leaves what is kept in agreement with the registry. -/
theorem Ends.agrees (h : Ends registry key query resolver server outcome)
    (hknown : resolver.known.Agrees registry) : outcome.state.1.known.Agrees registry := by
  cases h with
  | settled | unknown | unanswered | crowded => exact hknown
  | absent registration presence server' lines lines' hasks =>
    exact hknown.insertAbsent hasks.unsettled hasks.contains
  | resolved registration presence server' lines lines' hasks =>
    exact hknown.insert (e := registration.build resolver.known.instances key presence)
      hasks.unsettled hasks.contains

variable (registry key query resolver server outcome) in
/-- A question makes an extension of what the registry and the server say of its key: an instance
of the registered module, at the opcodes that the server gives, and at these the module's
declarations are registered. -/
structure Makes (registration : Registration) (presence : Presence) (e : Extension) : Prop where
  registered : registry.find? key = some registration
  answered : (query key server).result = .ok presence
  present : presence.present = true
  inserted : ∃ lines, OpcodeTables.insertModule presence.firstEvent registration.events
    presence.firstError registration.errors resolver.tables =
      ⟨.ok (), outcome.state.1.tables, lines⟩
  result_eq : outcome.result = .ok e
  key_eq : e.key = key
  module_eq : e.module = ⟨registration.module, key⟩
  majorOpcode_eq : e.majorOpcode = presence.majorOpcode
  firstEvent_eq : e.firstEvent = presence.firstEvent
  firstError_eq : e.firstError = presence.firstError

/-- An extension that is kept was kept before, or the question made it. -/
theorem Ends.find?_cases (h : Ends registry key query resolver server outcome)
    {key' : ExtensionKey} {e : Extension} (hfind : outcome.state.1.known.find? key' = some e) :
    resolver.known.find? key' = some e ∨
      key' = key ∧ ∃ registration presence,
        Makes registry key query resolver server outcome registration presence e := by
  cases h with
  | settled | unknown | unanswered | absent | crowded => exact .inl hfind
  | resolved registration presence server' lines lines' hasks hquery hpresent hroom =>
    obtain ⟨-, hfree, -⟩ := KnownExtensions.settled?_eq_none_iff.mp hasks.unsettled
    have hinsert := KnownExtensions.find?_insert
      (e := registration.build resolver.known.instances key presence) hfree key'
    rw [withExtension, hinsert] at hfind
    split at hfind
    next heq =>
      cases hfind
      refine .inr ⟨heq.symm, registration, presence, ?_⟩
      exact {
        registered := hasks.registered
        answered := by rw [hquery]
        present := hpresent
        inserted := OpcodeTables.insertModule_of_fits hroom.1 hroom.2 resolver.tables
        result_eq := rfl
        key_eq := rfl
        module_eq := rfl
        majorOpcode_eq := rfl
        firstEvent_eq := rfl
        firstError_eq := rfl }
    next => exact .inl hfind

/-- What is kept under a key stays there. -/
theorem Ends.find?_state (h : Ends registry key query resolver server outcome)
    {key' : ExtensionKey} (hkey' : key' ≠ .core) {e : Extension}
    (hfind : resolver.known.find? key' = some e) :
    outcome.state.1.known.find? key' = some e :=
  KnownExtensions.find?_of_settled? hkey'
    (h.settled?_state (KnownExtensions.settled?_of_find? hkey' hfind))

end Questions

/-- Taking up the core changes nothing that is kept of extensions. -/
theorem takeCore_known_cases (registry : Registry) (resolver : Resolver) :
    (takeCore registry resolver).state.known = resolver.known ∨
      ∃ core, (takeCore registry resolver).state.known = resolver.known.setCore core := by
  cases hcore : resolver.known.core with
  | some core =>
    rw [takeCore_of_known hcore]
    exact .inl rfl
  | none =>
    cases hregistry : registry.find? .core with
    | none =>
      rw [takeCore_of_unregistered hcore hregistry]
      exact .inl rfl
    | some registration =>
      obtain ⟨lines, htake⟩ := takeCore_of_registered hcore hregistry
      rw [htake]
      exact .inr ⟨_, rfl⟩

end Resolver

/-- A resolver with what it works on. -/
structure Keeper (σ : Type) where
  registry : Registry
  resolver : Resolver
  server : σ

namespace Keeper

variable {σ : Type}

/-- A keeper that keeps nothing yet. -/
def start (registry : Registry) (tables : OpcodeTables) (server : σ) : Keeper σ :=
  ⟨registry, ⟨.empty, tables⟩, server⟩

/-- A question for an extension. -/
def ask (key : ExtensionKey) (query : ExtensionKey → Step σ Presence) (k : Keeper σ) :
    Outcome (Resolver × σ) Extension :=
  Resolver.resolve k.registry key query (k.resolver, k.server)

/-- What a keeper is called for, and what happens in between. -/
inductive Call (σ : Type) where
  | takeCore
  | ask (key : ExtensionKey) (query : ExtensionKey → Step σ Presence)
  /-- All that is kept is forgotten. -/
  | clear
  /-- A module is registered. -/
  | register (call : Registering)
  /-- Others use the tables and the server. -/
  | others (use : OpcodeTables × σ → OpcodeTables × σ)

namespace Call

/-- What a call leaves. -/
def after : Call σ → Keeper σ → Keeper σ
  | takeCore, k => { k with resolver := (Resolver.takeCore k.registry k.resolver).state }
  | ask key query, k =>
    let outcome := k.ask key query
    { k with resolver := outcome.state.1, server := outcome.state.2 }
  | clear, k => { k with resolver := (Resolver.modifyKnown (·.clear) k.resolver).state }
  | register call, k => { k with registry := (call.perform k.registry).state }
  | others use, k =>
    let used := use (k.resolver.tables, k.server)
    { k with resolver := { k.resolver with tables := used.1 }, server := used.2 }

def isClear : Call σ → Bool
  | clear => true
  | _ => false

end Call

/-- The keeper after some calls. -/
def run (calls : List (Call σ)) (k : Keeper σ) : Keeper σ :=
  calls.foldl (fun k c => c.after k) k

theorem run_concat (calls : List (Call σ)) (c : Call σ) (k : Keeper σ) :
    run (calls ++ [c]) k = c.after (run calls k) := by
  rw [run, run, List.foldl_concat]

/-- The calls of a run, each with the keeper that it finds. -/
def course : List (Call σ) → Keeper σ → List (Call σ × Keeper σ)
  | [], _ => []
  | c :: calls, k => (c, k) :: course calls (c.after k)

theorem course_concat (calls : List (Call σ)) (c : Call σ) (k : Keeper σ) :
    course (calls ++ [c]) k = course calls k ++ [(c, run calls k)] := by
  induction calls generalizing k with
  | nil => rfl
  | cons c' calls ih =>
    rw [List.cons_append, course, course, ih]
    rfl

/-- The calls since all was forgotten. -/
def sinceClear (made : List (Call σ × Keeper σ)) : List (Call σ × Keeper σ) :=
  made.rtakeWhile fun m => !m.1.isClear

/-! ## The registry -/

variable {k : Keeper σ}

theorem find?_after {key : ExtensionKey} {registration : Registration}
    (h : k.registry.find? key = some registration) (c : Call σ) :
    (c.after k).registry.find? key = some registration := by
  cases c with
  | register call => exact Registry.find?_after_of_some h [call]
  | takeCore | ask | clear | others => exact h

theorem contains_after {key : ExtensionKey} (h : k.registry.contains key = true) (c : Call σ) :
    (c.after k).registry.contains key = true := by
  obtain ⟨registration, hfound⟩ := Option.isSome_iff_exists.mp h
  exact Registry.contains_of_find? (find?_after hfound c)

theorem agrees_after (h : k.resolver.known.Agrees k.registry) (c : Call σ) :
    (c.after k).resolver.known.Agrees (c.after k).registry := by
  have hkept : (c.after k).resolver.known.Agrees k.registry := by
    cases c with
    | takeCore =>
      rcases Resolver.takeCore_known_cases k.registry k.resolver with hsame | ⟨core, hcore⟩
      · exact hsame ▸ h
      · exact hcore ▸ h.setCore core
    | ask key query => exact (Resolver.resolve_ends k.registry key query _ k.server).agrees h
    | clear => exact KnownExtensions.agrees_clear k.registry k.resolver.known
    | register | others => exact h
  exact hkept.mono fun key hkey => contains_after hkey c

theorem agrees_run (h : k.resolver.known.Agrees k.registry) (calls : List (Call σ)) :
    (run calls k).resolver.known.Agrees (run calls k).registry := by
  induction calls generalizing k with
  | nil => exact h
  | cons c calls ih => exact ih (agrees_after h c)

/-! ## The questions -/

/-- What is kept of extensions is what the questions came to: it has the answers, and each was made
by one of the questions. -/
structure Remembers (k : Keeper σ) (made : List (Call σ × Keeper σ)) : Prop where
  of_answer {key : ExtensionKey} {query : ExtensionKey → Step σ Presence} {k' : Keeper σ}
    {e : Extension} : (.ask key query, k') ∈ made → key ≠ .core →
    (k'.ask key query).result = .ok e → k.resolver.known.find? key = some e
  made_by {key : ExtensionKey} {e : Extension} : k.resolver.known.find? key = some e →
    ∃ query k' registration presence, (.ask key query, k') ∈ made ∧
      k.registry.find? key = some registration ∧
      Resolver.Makes k'.registry key query k'.resolver k'.server (k'.ask key query) registration
        presence e

variable {made : List (Call σ × Keeper σ)}

theorem remembers_of_empty (h : k.resolver.known.keys = []) : k.Remembers [] where
  of_answer hmem := absurd hmem List.not_mem_nil
  made_by hfind := by
    have hmem := KnownExtensions.mem_keys_iff.mpr ⟨_, hfind⟩
    rw [h] at hmem
    exact absurd hmem List.not_mem_nil

/-- The calls that are no questions, but for those that forget all. -/
theorem Remembers.of_find?_eq (h : k.Remembers made) {c : Call σ}
    (hask : ∀ key query, c ≠ .ask key query)
    (hfind : (c.after k).resolver.known.find? = k.resolver.known.find?) :
    (c.after k).Remembers (made ++ [(c, k)]) where
  of_answer hmem hkey hresult := by
    rw [hfind]
    rcases List.mem_append.mp hmem with hold | hlast
    · exact h.of_answer hold hkey hresult
    · cases List.mem_singleton.mp hlast
      exact absurd rfl (hask _ _)
  made_by he := by
    rw [hfind] at he
    obtain ⟨query, k', registration, presence, hmem, hregistered, hmakes⟩ := h.made_by he
    exact ⟨query, k', registration, presence, List.mem_append_left _ hmem,
      find?_after hregistered c, hmakes⟩

theorem Remembers.ask (h : k.Remembers made) (key : ExtensionKey)
    (query : ExtensionKey → Step σ Presence) :
    ((Call.ask key query).after k).Remembers (made ++ [(.ask key query, k)]) := by
  have hends : Resolver.Ends k.registry key query k.resolver k.server (k.ask key query) :=
    Resolver.resolve_ends k.registry key query k.resolver k.server
  refine ⟨fun {key' query' k' e} hmem hkey' hresult => ?_, fun {key' e} hfind => ?_⟩
  · rcases List.mem_append.mp hmem with hold | hlast
    · exact hends.find?_state hkey' (h.of_answer hold hkey' hresult)
    · cases List.mem_singleton.mp hlast
      exact KnownExtensions.find?_of_settled? hkey' (hends.settled?_of_ok hresult)
  · rcases hends.find?_cases hfind with hold | ⟨rfl, registration, presence, hmakes⟩
    · obtain ⟨query', k', registration, presence, hmem, hregistered, hmakes⟩ := h.made_by hold
      exact ⟨query', k', registration, presence, List.mem_append_left _ hmem, hregistered, hmakes⟩
    · exact ⟨query, k, registration, presence, by simp, hmakes.registered, hmakes⟩

theorem Remembers.after (h : k.Remembers made) {c : Call σ} (hclear : c.isClear = false) :
    (c.after k).Remembers (made ++ [(c, k)]) := by
  cases c with
  | ask key query => exact h.ask key query
  | clear => cases hclear
  | takeCore =>
    refine h.of_find?_eq nofun ?_
    rcases Resolver.takeCore_known_cases k.registry k.resolver with hsame | ⟨core, hcore⟩
    · exact congrArg KnownExtensions.find? hsame
    · have hfind : (k.resolver.known.setCore core).find? = k.resolver.known.find? := rfl
      exact (congrArg KnownExtensions.find? hcore).trans hfind
  | register | others => exact h.of_find?_eq nofun rfl

/-- By induction on the calls, the last of them first: it forgets all, or it adds to what the others
came to. -/
theorem remembers_run (h : k.resolver.known.keys = []) (calls : List (Call σ)) :
    (run calls k).Remembers (sinceClear (course calls k)) := by
  induction calls using List.reverseRecOn with
  | nil => exact remembers_of_empty h
  | append_singleton calls c ih =>
    rw [run_concat, course_concat, sinceClear]
    cases hclear : c.isClear with
    | true =>
      rw [List.rtakeWhile_concat_neg _ _ _ (by simp [hclear])]
      cases c with
      | clear => exact remembers_of_empty rfl
      | takeCore | ask | register | others => cases hclear
    | false =>
      rw [List.rtakeWhile_concat_pos _ _ _ (by simp [hclear])]
      exact ih.after hclear

/-- The key that a call resolved, if it did. The core is not resolved. -/
def resolved? : Call σ × Keeper σ → Option ExtensionKey
  | (.ask key query, k) =>
    if key ≠ .core ∧ (k.ask key query).result.isOk = true then some key else none
  | _ => none

theorem resolved?_eq_some_iff {m : Call σ × Keeper σ} {key : ExtensionKey} :
    resolved? m = some key ↔
      key ≠ .core ∧ ∃ query e, m.1 = .ask key query ∧ (m.2.ask key query).result = .ok e := by
  constructor
  · obtain ⟨c, k⟩ := m
    cases c with
    | takeCore | clear | register | others => nofun
    | ask key' query =>
      rw [resolved?, Option.ite_none_right_eq_some]
      rintro ⟨⟨hcore, hok⟩, ⟨⟩⟩
      cases hresult : (k.ask key query).result with
      | error fault =>
        rw [hresult] at hok
        cases hok
      | ok e => exact ⟨hcore, query, e, rfl, hresult⟩
  · obtain ⟨c, k⟩ := m
    rintro ⟨hcore, query, e, rfl, hresult⟩
    rw [resolved?, hresult]
    exact if_pos ⟨hcore, rfl⟩

/-- The keys that are kept are those that questions resolved. -/
theorem Remembers.mem_keys_iff (h : k.Remembers made) (hknown : k.resolver.known.Agrees k.registry)
    {key : ExtensionKey} :
    key ∈ k.resolver.known.keys ↔ key ∈ made.filterMap resolved? := by
  rw [List.mem_filterMap]
  constructor
  · intro hkey
    obtain ⟨e, hfind⟩ := KnownExtensions.mem_keys_iff.mp hkey
    obtain ⟨query, k', registration, presence, hmem, -, hmakes⟩ := h.made_by hfind
    have hcore : key ≠ .core := fun hcore => hknown.core_not_resolved (hcore ▸ hkey)
    exact ⟨_, hmem, resolved?_eq_some_iff.mpr ⟨hcore, query, e, rfl, hmakes.result_eq⟩⟩
  · rintro ⟨⟨c, k'⟩, hmem, hresolved⟩
    obtain ⟨hcore, query, e, rfl, hresult⟩ := resolved?_eq_some_iff.mp hresolved
    exact KnownExtensions.mem_keys_iff.mpr ⟨e, h.of_answer hmem hcore hresult⟩

theorem Remembers.length_eq (h : k.Remembers made) (hknown : k.resolver.known.Agrees k.registry) :
    k.resolver.known.length = (made.filterMap resolved?).dedup.length := by
  have hperm : k.resolver.known.keys.Perm (made.filterMap resolved?).dedup :=
    (List.perm_ext_iff_of_nodup hknown.nodup_keys (List.nodup_dedup _)).mpr fun key => by
      rw [h.mem_keys_iff hknown, List.mem_dedup]
  rw [KnownExtensions.length, ← hperm.length_eq, KnownExtensions.keys, List.length_map]

/-- Whatever calls are made on a keeper that kept nothing at first, and whatever is registered in
between, each key that it keeps is registered and has either an extension or an absence, and the
core's has neither. What is kept under a key is an instance with that key of the module that is
registered for it, with the opcodes of the server's answer, at which the module's declarations were
registered. There are as many as there are different keys that were resolved since all was
forgotten. -/
theorem keeps_one_of_each (registry : Registry) (tables : OpcodeTables) (server : σ)
    (calls : List (Call σ)) :
    let k := run calls (start registry tables server)
    let made := sinceClear (course calls (start registry tables server))
    k.resolver.known.Agrees k.registry ∧ k.Remembers made ∧
      k.resolver.known.length = (made.filterMap resolved?).dedup.length := by
  intro k made
  have hknown : k.resolver.known.Agrees k.registry :=
    agrees_run (KnownExtensions.agrees_clear registry .empty) calls
  have hremembers : k.Remembers made := remembers_run rfl calls
  exact ⟨hknown, hremembers, hremembers.length_eq hknown⟩

/-- An extension is resolved, all is forgotten, and it is resolved anew at other opcodes, at which a
later question finds it. -/
theorem keeps_one_of_each_of_forgotten :
    let randr : ExtensionKey := .named "RANDR"
    let damage : ExtensionKey := .named "DAMAGE"
    let answers (presence : Presence) : ExtensionKey → Step Unit Presence := fun _ => pure presence
    let calls : List (Call Unit) := [
      .register (.extension randr (.named "Randr") [⟨0, .named "Notify"⟩] []),
      .ask randr (answers ⟨true, 140, 89, 147⟩), .clear,
      .register (.extension damage (.named "Damage") [] []), .ask damage (answers .absent),
      .ask randr (answers ⟨true, 141, 90, 148⟩), .ask randr (answers .absent)]
    let k := run calls (start .empty .empty ())
    k.resolver.known.length = 1 ∧ k.resolver.known.absent = [damage] ∧
      randr ∉ k.resolver.known.absent ∧
      ∃ e, k.resolver.known.find? randr = some e ∧ e.key = randr ∧ e.majorOpcode = 141 := by
  intro randr damage answers calls k
  have hkeeps : k.resolver.known.Agrees k.registry ∧ k.Remembers _ ∧ _ :=
    keeps_one_of_each .empty .empty () calls
  obtain ⟨hknown, hremembers, hlength⟩ := hkeeps
  have hmem : randr ∈ k.resolver.known.keys := by decide +kernel
  obtain ⟨e, hfind⟩ := KnownExtensions.mem_keys_iff.mp hmem
  obtain ⟨query, k', registration, presence, -, -, hmakes⟩ := hremembers.made_by hfind
  have hone : k.resolver.known.length = 1 := hlength.trans (by decide +kernel)
  have hnot : randr ∉ k.resolver.known.absent := hknown.disjoint hmem
  have habsent : k.resolver.known.absent = [damage] := by decide +kernel
  have hkey : e.key = randr := hmakes.key_eq
  refine ⟨hone, habsent, hnot, e, hfind, hkey, ?_⟩
  have hkept : (k.resolver.known.find? randr).map Extension.majorOpcode = some 141 := by
    decide +kernel
  simpa [hfind] using hkept

end Keeper

end DisplayClient
