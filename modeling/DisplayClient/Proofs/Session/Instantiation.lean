import DisplayClient.Proofs.Extension.FirstRegistration
import DisplayClient.Proofs.Session.Answer
import DisplayClient.Transport.Script

/-!
# Extensions have the module that was registered first

The registry of a session grows by the registrations of its run
(`Session.registry_run`), and an extension that is kept has the module that is
registered for its key, built for that key (`Session.Instantiates`,
`Instantiates.run`), whatever is registered later. So an extension is always
an instance of the first module that was validly registered for its key, of
all that ever were (`first_registration_stands`).
-/

namespace DisplayClient

/-- An extension that settles a question after another question settled it before, or was just
built from what is registered for its key. -/
theorem Resolver.Ends.settled?_ok_cases {σ : Type} {registry : Registry} {key : ExtensionKey}
    {query : ExtensionKey → Step σ Presence} {resolver : Resolver} {server : σ}
    {outcome : Outcome (Resolver × σ) Extension}
    (h : Ends registry key query resolver server outcome) {key' : ExtensionKey} {e : Extension}
    (hsettled : outcome.state.1.known.settled? key' = some (.ok e)) :
    resolver.known.settled? key' = some (.ok e) ∨
      ∃ registration, registry.find? key' = some registration ∧
        e.module = ⟨registration.module, key'⟩ := by
  by_cases hkey : key = key'
  · subst hkey
    cases h with
    | settled | unknown | unanswered | crowded => exact .inl hsettled
    | absent registration presence server' lines lines' hasks =>
      rw [KnownExtensions.settled?_insertAbsent hasks.unsettled, if_pos rfl] at hsettled
      cases hsettled
    | resolved registration presence server' lines lines' hasks =>
      rw [settled?_withExtension hasks, if_pos rfl] at hsettled
      cases hsettled
      exact .inr ⟨registration, hasks.registered, rfl⟩
  · rw [h.settled?_of_ne hkey] at hsettled
    exact .inl hsettled

namespace Action

variable {σ : Type} [Transport σ]

/-- The call that registers a module, if the action is one. -/
def registering? : Action σ → Option Registering
  | .register call => some call
  | _ => none

theorem registry_after_eq (a : Action σ) (s : Session σ) :
    (a.after s).registry = s.registry.after a.registering?.toList := by
  by_cases hregister : ∃ call, a = .register call
  · obtain ⟨call, rfl⟩ := hregister
    rfl
  · have hnone : a.registering? = none := by
      cases a with
      | register call => exact absurd ⟨call, rfl⟩ hregister
      | _ => rfl
    rw [hnone, registry_after fun call hcall => hregister ⟨call, hcall⟩]
    rfl

/-- What is registered for a key stays registered. -/
theorem find?_registry_after {s : Session σ} {key : ExtensionKey} {registration : Registration}
    (h : s.registry.find? key = some registration) (a : Action σ) :
    (a.after s).registry.find? key = some registration := by
  rw [registry_after_eq]
  exact Registry.find?_after_of_some h _

end Action

namespace Session

variable {σ : Type}

/-- Every extension that is kept has the module that is registered for its key, built for that
key. -/
def Instantiates (s : Session σ) : Prop :=
  ∀ key e, s.connection.resolver.known.settled? key = some (.ok e) →
    ∃ registration, s.registry.find? key = some registration ∧
      e.module = ⟨registration.module, key⟩

/-- The core is taken up as it is registered when the connection is opened. -/
theorem instantiates_of_opens {opening : Opening σ} {server : σ} {opened : Session σ}
    (h : opening.Opens server opened) : opened.Instantiates := by
  intro key e hsettled
  rw [h.connection_eq.2, Registry.settled?_initial] at hsettled
  split at hsettled
  next hkey =>
    subst hkey
    rw [Registry.coreAnswer] at hsettled
    cases hcore : opened.registry.find? .core with
    | none =>
      rw [hcore] at hsettled
      cases hsettled
    | some core =>
      rw [hcore] at hsettled
      cases hsettled
      exact ⟨core, rfl, rfl⟩
  next => cases hsettled

variable [Transport σ]

/-- The calls of a run that register modules, in order. -/
def registrations (actions : List (Action σ)) : List Registering :=
  actions.filterMap Action.registering?

theorem registry_run (s : Session σ) (actions : List (Action σ)) :
    (s.run actions).registry = s.registry.after (registrations actions) := by
  induction actions generalizing s with
  | nil => rfl
  | cons a actions ih =>
    rw [run_cons, ih, a.registry_after_eq, registrations, registrations, List.filterMap_cons]
    cases a.registering? <;> rfl

/-- An action that changes neither what is kept nor what is registered changes nothing here, and
every other one keeps what was registered. -/
theorem Instantiates.after {s : Session σ} (h : s.Instantiates) (a : Action σ) :
    (a.after s).Instantiates := by
  intro key' e hsettled
  have hkept (hbefore : s.connection.resolver.known.settled? key' = some (.ok e)) :
      ∃ registration, (a.after s).registry.find? key' = some registration ∧
        e.module = ⟨registration.module, key'⟩ := by
    obtain ⟨registration, hfound, hmodule⟩ := h key' e hbefore
    exact ⟨registration, a.find?_registry_after hfound, hmodule⟩
  cases hasks : a.asks? with
  | none =>
    rw [Action.resolver_after hasks] at hsettled
    exact hkept hsettled
  | some key =>
    rw [Action.after_of_asks hasks] at hsettled
    rcases extension_state_cases key s with hstate | ⟨outcome, hends, hstate⟩
    · rw [hstate] at hsettled
      exact hkept hsettled
    · rw [hstate] at hsettled
      rcases hends.settled?_ok_cases hsettled with hbefore | ⟨registration, hfound, hmodule⟩
      · exact hkept hbefore
      · exact ⟨registration, a.find?_registry_after hfound, hmodule⟩

theorem Instantiates.run {s : Session σ} (h : s.Instantiates) (actions : List (Action σ)) :
    (s.run actions).Instantiates :=
  run_keeps (fun a _ hs => hs.after a) h actions

open Registering (first?)

/-- A registry knows of a key what the first valid call for it declared, and nothing if there was no
such call. That call is answered with success, later valid ones come too late, and those that are
not valid, such as every extension under the core's key, are refused; neither changes anything, and
no call changes what is known of another key. Whenever a connection gives an extension, its module
is that of the first valid call for its key, built for that key. -/
theorem first_registration_stands (calls : List Registering) :
    (∀ key, (Registry.empty.after calls).find? key =
      (first? calls key).map Registering.declared) ∧
    (∀ key, (Registry.empty.after calls).contains key = true ↔ ∃ r ∈ calls, r.ValidFor key) ∧
    ((Registry.empty.after calls).hasCore = true ↔ ∃ r ∈ calls, r.ValidFor .core) ∧
    (∀ r : Registering,
      let answer := r.perform (Registry.empty.after calls)
      r.AnsweredAfter calls answer.result answer.state) ∧
    ∀ {σ : Type} [Transport σ] (opening : Opening σ) (server : σ) (opened : Session σ)
      (actions : List (Action σ)), opened.registry = Registry.empty.after calls →
      opening.Opens server opened →
      ∀ key e, (extension key (opened.run actions)).result = .ok e →
        ∃ r, first? (calls ++ registrations actions) key = some r ∧
          e.module = ⟨r.declared.module, key⟩ := by
  refine ⟨Registry.find?_after_empty calls, Registry.contains_after_iff calls,
    Registry.contains_after_iff calls .core, fun r => (r.perform_ends _).answeredAfter, ?_⟩
  intro σ _ opening server opened actions hregistry hopening key e hresult
  have hinstantiates : ((opened.run actions).run [.extension key]).Instantiates :=
    ((instantiates_of_opens hopening).run actions).run [.extension key]
  obtain ⟨registration, hfound, hmodule⟩ :=
    hinstantiates key e (settled?_extension hresult (.inl ⟨e, rfl⟩))
  have hcalls : ((opened.run actions).run [.extension key]).registry =
      Registry.empty.after (calls ++ registrations actions) := by
    rw [registry_run, registry_run, hregistry, Registry.after_append]
    rfl
  rw [hcalls, Registry.find?_after_empty, Option.map_eq_some_iff] at hfound
  obtain ⟨r, hfirst, rfl⟩ := hfound
  exact ⟨r, hfirst, hmodule⟩

/-- A module contradicts itself, the next one is registered, and another comes too late; the core's
key is no extension's; and once the extension is resolved, a fourth module changes nothing. -/
theorem first_registration_stands_of_four :
    let key : ExtensionKey := .named "RANDR"
    let twice : List Declaration := [⟨0, .named "Alpha"⟩, ⟨0, ⟨"AlphaTwin", "Alpha"⟩⟩]
    let valid : Registering := .extension key (.named "ExtB") [⟨0, .named "Alpha"⟩] []
    let usurper : Registering := .extension .core (.named "CoreB") [] []
    let calls : List Registering := [.extension key (.named "ExtA") [] twice, valid, usurper]
    let registry := Registry.empty.after calls
    let late : Registering := .extension key (.named "ExtA") [] []
    let server := Script.empty.scriptPresence "RANDR" ⟨true, 140, 89, 147⟩
    let opened : Session Script := ⟨registry, ⟨true, 0, .empty⟩, server⟩
    let actions : List (Action Script) := [.extension key, .register late]
    registry.find? key = some valid.declared ∧ registry.hasCore = false ∧
      (late.perform registry).result = .ok false ∧
      ∃ e, (extension key (opened.run actions)).result = .ok e ∧
        e.module = ⟨.named "ExtB", key⟩ := by
  intro key twice valid usurper calls registry late server opened actions
  have hopening : (Opening.wrap 0).Opens server opened := ⟨_, rfl⟩
  have hlate : late.Valid := by decide
  have hresult : (extension key (opened.run actions)).result =
      .ok ⟨0, key, 140, 89, 147, ⟨.named "ExtB", key⟩⟩ := rfl
  obtain ⟨hfind, -, hcore, hanswer, hinstance⟩ := first_registration_stands calls
  have hnocore : ¬ registry.hasCore = true := by
    rw [hcore]
    decide
  obtain ⟨r, hfirst, hmodule⟩ :=
    hinstance (.wrap 0) server opened actions rfl hopening key _ hresult
  cases hfirst
  have hearlier : valid ∈ calls := List.mem_cons_of_mem _ List.mem_cons_self
  exact ⟨hfind key, by simpa using hnocore,
    ((hanswer late).of_late hlate ⟨valid, hearlier, by decide⟩).1, _, hresult, hmodule⟩

end Session

end DisplayClient
