import DisplayClient.Proofs.Session.Run

/-!
# What one question does to a session

A question for an extension either resolves it (`Session.Resolves`), which
puts the module's declarations into the tables and the extension among those
that are kept, or leaves the tables and the resolved extensions as they are
(`Session.Keeps`, `resolves_or_keeps`).

* `extension_of_settled`: what is known answers a question without the
  server;
* `settled?_run`: what is known to settle a question settles it for good;
* `settled?_extension`: an extension settles the question that it was given
  for, and so does its absence.
-/

namespace DisplayClient.Session

open OpcodeTable (Fits)

variable {σ : Type} [Transport σ]

/-- What is known answers a question without the server, and nothing else happens. -/
theorem extension_of_settled {s : Session σ} (hopen : s.connection.isConnected = true)
    {key : ExtensionKey} {result : Except Fault Extension}
    (h : s.connection.resolver.known.settled? key = some result) :
    extension key s = ⟨result, s, []⟩ := by
  obtain ⟨outcome, hends, houtcome⟩ := extension_ends hopen key
  rw [houtcome, hends.eq_of_settled h]
  rfl

/-- What is known to settle a question settles it for good. -/
theorem settled?_run {s : Session σ} {key : ExtensionKey} {result : Except Fault Extension}
    (h : s.connection.resolver.known.settled? key = some result) (actions : List (Action σ)) :
    (s.run actions).connection.resolver.known.settled? key = some result :=
  run_keeps_resolver (P := fun resolver => resolver.known.settled? key = some result)
    (fun hends hresolver => hends.settled?_state hresolver) h actions

/-- An extension settles the question that it was given for, and so does its absence. -/
theorem settled?_extension {s : Session σ} {key : ExtensionKey} {result : Except Fault Extension}
    (hresult : (extension key s).result = result)
    (h : (∃ e, result = .ok e) ∨ result = .error (.absentExtension key)) :
    (extension key s).state.connection.resolver.known.settled? key = some result := by
  cases hopen : s.connection.isConnected with
  | false =>
    rw [extension_of_closed hopen] at hresult
    subst hresult
    rcases h with ⟨e, h⟩ | h <;> cases h
  | true =>
    obtain ⟨outcome, hends, houtcome⟩ := extension_ends hopen key
    rw [houtcome] at hresult ⊢
    rcases h with ⟨e, rfl⟩ | rfl
    · exact hends.settled?_of_ok hresult
    · -- A server that does not answer is an I/O fault, and not an absent extension.
      refine hends.settled?_of_absent (fun hquery => ?_) hresult
      rw [query, Step.call_apply] at hquery
      cases hanswer : (Transport.presenceOf key s.server).1 <;> rw [hanswer] at hquery <;>
        cases hquery

/-- The question for `key` is answered with an extension that was not known, `e`, of a registered
module. -/
structure Resolves (s : Session σ) (key : ExtensionKey) (registration : Registration)
    (e : Extension) : Prop where
  isConnected : s.connection.isConnected = true
  unsettled : s.connection.resolver.known.settled? key = none
  registered : s.registry.find? key = some registration
  result_eq : (extension key s).result = .ok e
  key_eq : e.key = key
  events_fit : Fits e.firstEvent registration.events
  errors_fit : Fits e.firstError registration.errors
  resolver_eq : (extension key s).state.connection.resolver =
    ⟨s.connection.resolver.known.insert e, s.connection.resolver.tables.place e.firstEvent
      registration.events e.firstError registration.errors⟩

/-- The question for `key` leaves tables and resolved extensions alone, and if it is answered, then
it was settled. -/
structure Keeps (s : Session σ) (key : ExtensionKey) : Prop where
  tables_eq : (extension key s).state.connection.resolver.tables = s.connection.resolver.tables
  find?_eq (key' : ExtensionKey) : (extension key s).state.connection.resolver.known.find? key' =
    s.connection.resolver.known.find? key'
  settled_of_ok {e : Extension} : (extension key s).result = .ok e →
    s.connection.resolver.known.settled? key = some (.ok e)

theorem Resolves.key_ne {s : Session σ} {key : ExtensionKey} {registration : Registration}
    {e : Extension} (h : s.Resolves key registration e) : key ≠ .core :=
  (KnownExtensions.settled?_eq_none_iff.mp h.unsettled).1

theorem Resolves.not_kept {s : Session σ} {key : ExtensionKey} {registration : Registration}
    {e : Extension} (h : s.Resolves key registration e) :
    s.connection.resolver.known.find? key = none :=
  (KnownExtensions.settled?_eq_none_iff.mp h.unsettled).2.1

theorem Resolves.find?_eq {s : Session σ} {key : ExtensionKey} {registration : Registration}
    {e : Extension} (h : s.Resolves key registration e) (key' : ExtensionKey) :
    (extension key s).state.connection.resolver.known.find? key' =
      if key = key' then some e else s.connection.resolver.known.find? key' := by
  rw [h.resolver_eq, KnownExtensions.find?_insert (by rw [h.key_eq]; exact h.not_kept), h.key_eq]

theorem Keeps.of_error {s : Session σ} {key : ExtensionKey} {fault : Fault} {resolver : Resolver}
    {server : σ} {lines : List LogLine}
    (h : extension key s = ⟨.error fault, s.withParts resolver server, lines⟩)
    (htables : resolver.tables = s.connection.resolver.tables)
    (hfind : ∀ key', resolver.known.find? key' = s.connection.resolver.known.find? key') :
    s.Keeps key where
  tables_eq := by rw [h]; exact htables
  find?_eq key' := by rw [h]; exact hfind key'
  settled_of_ok hok := by rw [h] at hok; cases hok

/-- A question resolves its extension, or keeps everything. -/
theorem resolves_or_keeps (s : Session σ) (key : ExtensionKey) :
    (∃ registration e, s.Resolves key registration e) ∨ s.Keeps key := by
  cases hopen : s.connection.isConnected with
  | false => exact .inr (Keeps.of_error (extension_of_closed hopen key) rfl fun _ => rfl)
  | true =>
    obtain ⟨outcome, hends, houtcome⟩ := extension_ends hopen key
    cases hends with
    | settled result hsettled =>
      exact .inr
        { tables_eq := by rw [houtcome]; rfl
          find?_eq := fun key' => by rw [houtcome]; rfl
          settled_of_ok := fun hok => by rw [houtcome] at hok; rwa [← hok] }
    | unknown | unanswered | absent | crowded =>
      exact .inr (Keeps.of_error houtcome rfl fun _ => rfl)
    | resolved registration presence server' lines lines' hasks _ _ hroom =>
      exact .inl ⟨registration, registration.build s.connection.resolver.known.instances key presence,
        { isConnected := hopen
          unsettled := hasks.unsettled
          registered := hasks.registered
          result_eq := by rw [houtcome]
          key_eq := rfl
          events_fit := hroom.1
          errors_fit := hroom.2
          resolver_eq := by rw [houtcome]; rfl }⟩

end DisplayClient.Session
