import DisplayClient.Proofs.Opcode.Replay
import DisplayClient.Proofs.Session.Answer

/-!
# The tables of a session are its history

What a client sees of a run says what its tables hold. The core that is
registered when the connection is opened comes first; after that, every
extension comes in once, when a question for it is answered for the first
time, at the bases of the answer and with the declarations of the module that
is registered for it (`Session.resolutions`). Replaying that on empty tables
gives the tables (`tables_eq_replay`).
-/

namespace DisplayClient

namespace Registry

/-- What the core brings into the tables. -/
def coreInsertions (registry : Registry) : List Insertion :=
  match registry.find? .core with
  | none => []
  | some core => [⟨0, core.events, 0, core.errors⟩]

theorem replay_coreInsertions (registry : Registry) :
    Insertion.replay registry.coreInsertions = (Resolver.initial registry).tables := by
  rw [coreInsertions, Resolver.initial]
  cases registry.find? .core with
  | none => rfl
  | some core =>
    exact Insertion.apply_of_fits (OpcodeTable.fits_zero core.events)
      (OpcodeTable.fits_zero core.errors) .empty

theorem sound_coreInsertions {registry : Registry} (h : registry.Consistent) :
    ∀ i ∈ registry.coreInsertions, i.Sound := by
  intro i hi
  rw [coreInsertions] at hi
  cases hcore : registry.find? .core with
  | none => simp [hcore] at hi
  | some core =>
    simp only [hcore, List.mem_singleton] at hi
    subst hi
    exact ⟨OpcodeTable.fits_zero _, OpcodeTable.fits_zero _, (h.of_find? hcore).1,
      (h.of_find? hcore).2⟩

theorem find?_initial (registry : Registry) (key : ExtensionKey) :
    (Resolver.initial registry).known.find? key = none := by
  rw [Resolver.initial]
  split <;> rfl

end Registry

namespace Session

variable {σ : Type}

/-- The keys are those of the extensions that are kept. -/
def Tracks (s : Session σ) (answered : List ExtensionKey) : Prop :=
  ∀ key, key ≠ .core → (key ∈ answered ↔ (s.connection.resolver.known.find? key).isSome)

theorem Tracks.of_find?_eq {s t : Session σ} {answered : List ExtensionKey}
    (h : s.Tracks answered)
    (hfind : ∀ key, t.connection.resolver.known.find? key = s.connection.resolver.known.find? key) :
    t.Tracks answered :=
  fun key hkey => by rw [hfind]; exact h key hkey

theorem tracks_of_opens {s : Session σ} {opening : Opening σ} {server : σ}
    (h : opening.Opens server s) : s.Tracks [] := fun key _ => by
  simp [h.connection_eq.2, Registry.find?_initial]

variable [Transport σ]

/-- What the answer to an action resolves, where `answered` are the keys that were answered for
before: the extension that a question is answered with for the first time. -/
def resolution? (s : Session σ) (answered : List ExtensionKey) :
    Action σ → Option (ExtensionKey × Insertion)
  | .extension key =>
    if key = .core ∨ key ∈ answered then none
    else
      match (extension key s).result, s.registry.find? key with
      | .ok e, some registration =>
        some (key, ⟨e.firstEvent, registration.events, e.firstError, registration.errors⟩)
      | _, _ => none
  | _ => none

/-- What a run resolves, in order. -/
def resolutions (s : Session σ) (answered : List ExtensionKey) :
    List (Action σ) → List (ExtensionKey × Insertion)
  | [] => []
  | a :: actions =>
    match s.resolution? answered a with
    | none => (a.after s).resolutions answered actions
    | some r => r :: (a.after s).resolutions (r.1 :: answered) actions

theorem resolution?_of_resolves {s : Session σ} {answered : List ExtensionKey}
    (htracks : s.Tracks answered) {key : ExtensionKey} {registration : Registration}
    {e : Extension} (h : s.Resolves key registration e) :
    key ∉ answered ∧ s.resolution? answered (.extension key) =
      some (key, ⟨e.firstEvent, registration.events, e.firstError, registration.errors⟩) := by
  have hnew : key ∉ answered := by simp [htracks key h.key_ne, h.not_kept]
  refine ⟨hnew, ?_⟩
  simp only [resolution?, h.key_ne, hnew, or_self, if_false, h.result_eq, h.registered]

theorem resolution?_of_keeps {s : Session σ} {answered : List ExtensionKey}
    (htracks : s.Tracks answered) {key : ExtensionKey} (h : s.Keeps key) :
    s.resolution? answered (.extension key) = none := by
  rw [resolution?]
  split
  · rfl
  · rename_i hnew
    rw [not_or] at hnew
    cases hresult : (extension key s).result with
    | error fault => rfl
    | ok e =>
      have hkept := KnownExtensions.find?_of_settled? hnew.1 (h.settled_of_ok hresult)
      exact absurd ((htracks key hnew.1).mpr (by rw [hkept]; rfl)) hnew.2

theorem Tracks.of_resolves {s : Session σ} {answered : List ExtensionKey} (h : s.Tracks answered)
    {key : ExtensionKey} {registration : Registration} {e : Extension}
    (hresolves : s.Resolves key registration e) :
    (extension key s).state.Tracks (key :: answered) := by
  intro key' hkey'
  rw [hresolves.find?_eq, List.mem_cons, h key' hkey', eq_comm]
  split <;> simp_all

/-- A step of the history: an action resolves nothing, and leaves tables and resolved extensions
alone, or it resolves an extension that was not kept, and puts it into both. -/
theorem resolution?_cases {s : Session σ} {answered : List ExtensionKey}
    (htracks : s.Tracks answered) (a : Action σ) :
    (s.resolution? answered a = none ∧ (a.after s).Tracks answered ∧
      (a.after s).connection.resolver.tables = s.connection.resolver.tables) ∨
    ∃ key i, s.resolution? answered a = some (key, i) ∧ key ≠ .core ∧ key ∉ answered ∧
      (a.after s).Tracks (key :: answered) ∧ (s.registry.Consistent → i.Sound) ∧
      (a.after s).connection.resolver.tables = i.apply s.connection.resolver.tables := by
  cases hasks : a.asks? with
  | none =>
    have hresolver := Action.resolver_after hasks s
    refine .inl ⟨?_, htracks.of_find?_eq fun key => by rw [hresolver], by rw [hresolver]⟩
    cases a <;> first | rfl | cases hasks
  | some key =>
    have hafter := Action.after_of_asks hasks s
    rcases s.resolves_or_keeps key with ⟨registration, e, hresolves⟩ | hkeeps
    · have ha : a = .extension key := by
        cases a <;> cases hasks
        · rfl
        · exact absurd rfl hresolves.key_ne
        · exact absurd rfl hresolves.key_ne
      subst ha
      obtain ⟨hnew, hresolution⟩ := resolution?_of_resolves htracks hresolves
      refine .inr ⟨key, _, hresolution, hresolves.key_ne, hnew, htracks.of_resolves hresolves,
        fun h => ?_, ?_⟩
      · obtain ⟨hevents, herrors⟩ := h.of_find? hresolves.registered
        exact ⟨hresolves.events_fit, hresolves.errors_fit, hevents, herrors⟩
      · rw [Insertion.apply_of_fits hresolves.events_fit hresolves.errors_fit]
        exact congrArg Resolver.tables hresolves.resolver_eq
    · rw [hafter]
      refine .inl ⟨?_, htracks.of_find?_eq hkeeps.find?_eq, hkeeps.tables_eq⟩
      cases a <;> cases hasks
      · exact resolution?_of_keeps htracks hkeeps
      · rfl
      · rfl

/-- A run puts into the tables, in order, what it resolves, and each extension once. -/
theorem run_history (actions : List (Action σ)) {s : Session σ} {answered : List ExtensionKey}
    (htracks : s.Tracks answered) :
    (s.run actions).connection.resolver.tables =
        ((s.resolutions answered actions).map Prod.snd).foldl (fun tables i => i.apply tables)
          s.connection.resolver.tables ∧
      (s.run actions).Tracks
        (((s.resolutions answered actions).map Prod.fst).reverse ++ answered) ∧
      (s.registry.Consistent → ∀ r ∈ s.resolutions answered actions, r.2.Sound) := by
  induction actions generalizing s answered with
  | nil => exact ⟨rfl, htracks, fun _ r hr => absurd hr List.not_mem_nil⟩
  | cons a actions ih =>
    rw [run_cons, resolutions]
    rcases resolution?_cases htracks a with ⟨hnone, htracks', htables⟩ |
      ⟨key, i, hsome, -, -, htracks', hsound, htables⟩
    · rw [hnone]
      obtain ⟨hrun, hafter, hall⟩ := ih htracks'
      rw [htables] at hrun
      exact ⟨hrun, hafter, fun h => hall (Action.consistent_after h a)⟩
    · rw [hsome]
      obtain ⟨hrun, hafter, hall⟩ := ih htracks'
      rw [htables] at hrun
      refine ⟨hrun, by simpa using hafter, fun h r hr => ?_⟩
      rcases List.mem_cons.mp hr with rfl | hr
      · exact hsound h
      · exact hall (Action.consistent_after h a) r hr

/-- No extension is resolved twice, and none that was answered for before the run. -/
theorem nodup_resolutions (actions : List (Action σ)) {s : Session σ}
    {answered : List ExtensionKey} (htracks : s.Tracks answered) :
    ((s.resolutions answered actions).map Prod.fst).Nodup ∧
      ∀ key ∈ (s.resolutions answered actions).map Prod.fst, key ∉ answered := by
  induction actions generalizing s answered with
  | nil => exact ⟨List.nodup_nil, fun key hkey => absurd hkey List.not_mem_nil⟩
  | cons a actions ih =>
    rw [resolutions]
    rcases resolution?_cases htracks a with ⟨hnone, htracks', -⟩ |
      ⟨key, i, hsome, -, hnew, htracks', -⟩
    · rw [hnone]
      exact ih htracks'
    · rw [hsome]
      obtain ⟨hnodup, hdisjoint⟩ := ih htracks'
      refine ⟨List.nodup_cons.mpr ⟨fun h => ?_, hnodup⟩, fun key' hkey' => ?_⟩
      · exact hdisjoint key h List.mem_cons_self
      · rcases List.mem_cons.mp hkey' with rfl | hkey'
        · exact hnew
        · exact fun h => hdisjoint key' hkey' (List.mem_cons_of_mem _ h)

/-- Opening a connection never fails over the core, and after any run the tables are what replaying
the history on empty tables gives: the core first, if one was registered, then every extension that
was resolved, once, in order. A slot is taken exactly if one of them declares it, and holds the type
of the latest that does. A question that fails, that is for the core or that was answered before
leaves the tables as they are. -/
theorem tables_eq_replay (calls : List Registering) (opening : Opening σ) (server : σ) :
    let registry := Registry.empty.after calls
    match opening.perform registry server with
    | ⟨.error fault, _, _⟩ => opening.Unreached server fault
    | ⟨.ok c, server, _⟩ => ∀ actions : List (Action σ),
      let opened : Session σ := ⟨registry, c, server⟩
      let s := opened.run actions
      let resolved := opened.resolutions [] actions
      let history := registry.coreInsertions ++ resolved.map Prod.snd
      let tables := s.connection.resolver.tables
      tables = Insertion.replay history ∧
      (∀ i ∈ history, i.Sound) ∧ (resolved.map Prod.fst).Nodup ∧
      tables.events.HoldsLatest (history.map Insertion.eventList) ∧
      tables.errors.HoldsLatest (history.map Insertion.errorList) ∧
      ∀ key, (∃ fault, (extension key s).result = .error fault) ∨ key = .core ∨
          key ∈ resolved.map Prod.fst →
        (extension key s).state.connection.resolver.tables = tables := by
  intro registry
  have hconsistent : registry.Consistent := Registry.consistent_empty.after calls
  rcases opening.perform_cases registry server with ⟨fault, server', lines, hopening, hunreached⟩ |
    ⟨screen, server', lines, hopening⟩
  · rw [hopening]
    exact hunreached
  rw [hopening]
  intro actions opened s resolved history tables
  have htracks : opened.Tracks [] := fun key _ => by
    simp [opened, Registry.find?_initial]
  obtain ⟨hrun, htracks', hall⟩ := run_history actions htracks
  have hreplay : tables = Insertion.replay history := by
    rw [Insertion.replay, List.foldl_append, ← Insertion.replay, registry.replay_coreInsertions]
    exact hrun
  have hsound : ∀ i ∈ history, i.Sound := by
    intro i hi
    rcases List.mem_append.mp hi with hi | hi
    · exact Registry.sound_coreInsertions hconsistent i hi
    · obtain ⟨r, hr, rfl⟩ := List.mem_map.mp hi
      exact hall hconsistent r hr
  obtain ⟨hevents, herrors⟩ := Insertion.holdsLatest_replay hsound
  rw [← hreplay] at hevents herrors
  refine ⟨hreplay, hsound, (nodup_resolutions actions htracks).1, hevents, herrors,
    fun key hkey => ?_⟩
  rcases s.resolves_or_keeps key with ⟨registration, e, hresolves⟩ | hkeeps
  · -- A question that resolves its extension is none of those.
    rcases hkey with ⟨fault, hfault⟩ | hcore | hmem
    · rw [hresolves.result_eq] at hfault
      cases hfault
    · exact absurd hcore hresolves.key_ne
    · have hkept := (htracks' key hresolves.key_ne).mp (by simpa using hmem)
      rw [hresolves.not_kept] at hkept
      cases hkept
  · exact hkeeps.tables_eq

end Session

end DisplayClient
