import DisplayClient.Proofs.Extension.Registered
import DisplayClient.Proofs.Extension.Resolution
import DisplayClient.Proofs.Session.Opening
import DisplayClient.Session.Cookie

/-!
# Runs of a session

A session goes through `Action`s in any order: those of the client, and those
that happen around it, which are registrations and whatever the server and
its other clients do. `Session.run` is what a run leaves, and
`Session.Reachable` says that a run leads to a session.

* `extension_ends`: the ends of a client's question for an extension;
* `after_of_asks`, `resolver_after`: nothing else changes what a connection
  knows of its protocol;
* `run_keeps`, `run_keeps_resolver`: what a run leaves as it is;
* `Reachable.consistent`: the registry of a reachable session gives no number
  two types.
-/

namespace DisplayClient

/-- What can happen to a session. -/
inductive Action (σ : Type) : Type 1 where
  -- What the client asks of its connection.
  | extension (key : ExtensionKey)
  | core
  | coreModule (type : TypeTag)
  | nextEvent
  | nextEvent?
  | send (request : Request) (data : Buffer)
  | reply {α : Type} (cookie : Cookie) (type : ObjectType α)
  | check (cookie : Cookie)
  | flush
  | requestLimit
  | prefetchRequestLimit
  | freshId
  | setup
  | disconnect
  -- What others do: somebody registers a module, or anything happens at the server.
  | register (call : Registering)
  | server (change : σ → σ)

namespace Session

variable {σ α : Type}

/-- The session with another resolver and another server. -/
def withParts (s : Session σ) (resolver : Resolver) (server : σ) : Session σ :=
  { s with connection := { s.connection with resolver := resolver }, server := server }

/-- The sessions differ in the server at most. -/
def SameClient (s t : Session σ) : Prop := ∃ server, t = { s with server := server }

theorem sameClient_onServer (f : IoCall σ α) (s : Session σ) : s.SameClient (onServer f s).state := by
  rw [onServer, Step.read_bind]
  split
  · exact ⟨(f s.server).2, rfl⟩
  · exact ⟨s.server, rfl⟩

/-- Raising an error looks the tables up and changes nothing. -/
theorem raise_state (response : Response) (s : Session σ) :
    (raise response s : Outcome (Session σ) α).state = s := rfl

theorem raiseRaw_state (raw : Buffer) (s : Session σ) :
    (raiseRaw raw s : Outcome (Session σ) α).state = s := by
  rw [raiseRaw]
  cases Response.ofView (View.root raw) with
  | error fault => rw [Step.liftM_error_bind rfl]
  | ok response => rw [Step.liftM_ok_bind rfl, raise_state]

/-- Classifying looks the tables up and changes nothing. -/
theorem classify_state (raw : Buffer) (s : Session σ) : (classify raw s).state = s := by
  rw [classify]
  cases Response.ofView (View.root raw) with
  | error fault => rw [Step.liftM_error_bind rfl]
  | ok response =>
    rw [Step.liftM_ok_bind rfl]
    split
    · exact raise_state response s
    · rfl

variable [Transport σ]

/-! ## What one call leaves -/

theorem state_nextEvent (s : Session σ) :
    (nextEvent s).state = (onServer Transport.nextEvent s).state :=
  Step.state_bind classify_state s

theorem state_nextEvent? (s : Session σ) :
    (nextEvent? s).state = (onServer Transport.nextEvent? s).state := by
  refine Step.state_bind (fun raw? t => ?_) s
  cases raw? with
  | none => rfl
  | some raw => exact (Step.state_bind (fun _ _ => rfl) t).trans (classify_state raw t)

theorem state_send (request : Request) (data : Buffer) (s : Session σ) :
    (send request data s).state = (onServer (Transport.send request data) s).state :=
  Step.state_bind (fun _ _ => rfl) s

theorem state_check (cookie : Cookie) (s : Session σ) :
    (check cookie s).state =
      if cookie.request.isVoid && cookie.request.isChecked then
        (onServer (Transport.awaitError cookie.sequence) s).state
      else s := by
  rw [check]
  split
  · refine Step.state_bind (fun raw? t => ?_) s
    cases raw? with
    | none => rfl
    | some raw => exact raiseRaw_state raw t
  · rfl

theorem state_reply (cookie : Cookie) (type : ObjectType α) (s : Session σ) :
    (reply cookie type s).state =
      if cookie.request.isVoid then s
      else (onServer (Transport.awaitReply cookie.sequence) s).state := by
  rw [reply]
  split
  · rfl
  · refine Step.state_bind (fun outcome t => ?_) s
    cases outcome with
    | error raw => exact raiseRaw_state raw t
    | reply raw => exact Step.state_bind (fun _ _ => rfl) t

/-! ## Questions for an extension -/

/-- How a session asks its server for an extension. -/
def query (key : ExtensionKey) : Step σ Presence := Step.call .io (Transport.presenceOf key)

theorem presenceOf_of_query {key : ExtensionKey} {server server' : σ} {presence : Presence}
    {lines : List LogLine} (h : query key server = ⟨.ok presence, server', lines⟩) :
    Transport.presenceOf key server = (.ok presence, server') := by
  rw [query, Step.call_apply] at h
  cases hanswer : (Transport.presenceOf key server).1 <;> rw [hanswer] at h <;> cases h
  exact Prod.ext hanswer rfl

theorem extension_of_closed {s : Session σ} (h : s.connection.isConnected = false)
    (key : ExtensionKey) : extension key s = ⟨.error .disconnected, s, []⟩ := by
  rw [extension, Step.read_bind, h]
  rfl

/-- The ends of a client's question for an extension, on an open connection. -/
theorem extension_ends {s : Session σ} (h : s.connection.isConnected = true)
    (key : ExtensionKey) :
    ∃ outcome, Resolver.Ends s.registry key query s.connection.resolver s.server outcome ∧
      extension key s =
        ⟨outcome.result, s.withParts outcome.state.1 outcome.state.2, outcome.log⟩ := by
  refine ⟨_, Resolver.resolve_ends s.registry key query s.connection.resolver s.server, ?_⟩
  rw [extension, Step.read_bind, h]
  rfl

/-- A question leaves a closed session alone, and an open one as one of the ends says. -/
theorem extension_state_cases (key : ExtensionKey) (s : Session σ) :
    (extension key s).state = s ∨
    ∃ outcome, Resolver.Ends s.registry key query s.connection.resolver s.server outcome ∧
      (extension key s).state = s.withParts outcome.state.1 outcome.state.2 := by
  cases hopen : s.connection.isConnected with
  | false => exact .inl (congrArg Outcome.state (extension_of_closed hopen key))
  | true =>
    obtain ⟨outcome, hends, houtcome⟩ := extension_ends hopen key
    exact .inr ⟨outcome, hends, congrArg Outcome.state houtcome⟩

/-- A question leaves the connection as open as it was. -/
theorem isConnected_extension (key : ExtensionKey) (s : Session σ) :
    (extension key s).state.connection.isConnected = s.connection.isConnected := by
  rcases extension_state_cases key s with hstate | ⟨outcome, -, hstate⟩
  · rw [hstate]
  · rw [hstate]
    rfl

end Session

namespace Action

variable {σ : Type} [Transport σ]

/-- The session after an action. -/
def after : Action σ → Session σ → Session σ
  | .extension key, s => (Session.extension key s).state
  | .core, s => (Session.core s).state
  | .coreModule type, s => (Session.coreModule type s).state
  | .nextEvent, s => (Session.nextEvent s).state
  | .nextEvent?, s => (Session.nextEvent? s).state
  | .send request data, s => (Session.send request data s).state
  | .reply cookie type, s => (Session.reply cookie type s).state
  | .check cookie, s => (Session.check cookie s).state
  | .flush, s => (Session.flush s).state
  | .requestLimit, s => (Session.requestLimit s).state
  | .prefetchRequestLimit, s => (Session.prefetchRequestLimit s).state
  | .freshId, s => (Session.freshId s).state
  | .setup, s => (Session.setup s).state
  | .disconnect, s => (Session.disconnect s).state
  | .register call, s => { s with registry := (call.perform s.registry).state }
  | .server change, s => { s with server := change s.server }

/-- The extension that the client asks for, if it asks for one. -/
def asks? : Action σ → Option ExtensionKey
  | .extension key => some key
  | .core | .coreModule _ => some .core
  | _ => none

theorem after_of_asks {a : Action σ} {key : ExtensionKey} (h : a.asks? = some key)
    (s : Session σ) : a.after s = (Session.extension key s).state := by
  cases a <;> simp only [asks?, Option.some.injEq, reduceCtorEq] at h <;> subst h
  case extension => rfl
  case core => rfl
  case coreModule type =>
    refine Step.state_bind (fun core t => ?_) s
    cases core.moduleOf? type <;> rfl

/-- What else the client does concerns its connection's end and the server only. -/
theorem sameClient_after {a : Action σ} (hasks : a.asks? = none) (hdisconnect : a ≠ .disconnect)
    (hregister : ∀ call, a ≠ .register call) (s : Session σ) : s.SameClient (a.after s) := by
  cases a with
  | extension | core | coreModule => cases hasks
  | disconnect => exact absurd rfl hdisconnect
  | register call => exact absurd rfl (hregister call)
  | server change => exact ⟨change s.server, rfl⟩
  | flush => exact Session.sameClient_onServer _ s
  | requestLimit => exact Session.sameClient_onServer _ s
  | prefetchRequestLimit => exact Session.sameClient_onServer _ s
  | freshId => exact Session.sameClient_onServer _ s
  | setup => exact Session.sameClient_onServer _ s
  | nextEvent =>
    rw [after, Session.state_nextEvent]
    exact Session.sameClient_onServer _ s
  | nextEvent? =>
    rw [after, Session.state_nextEvent?]
    exact Session.sameClient_onServer _ s
  | send request data =>
    rw [after, Session.state_send]
    exact Session.sameClient_onServer _ s
  | check cookie =>
    rw [after, Session.state_check]
    split
    · exact Session.sameClient_onServer _ s
    · exact ⟨s.server, rfl⟩
  | reply cookie type =>
    rw [after, Session.state_reply]
    split
    · exact ⟨s.server, rfl⟩
    · exact Session.sameClient_onServer _ s

theorem disconnect_after (s : Session σ) :
    ((Action.disconnect : Action σ).after s).registry = s.registry ∧
      ((Action.disconnect : Action σ).after s).connection.resolver = s.connection.resolver := by
  rw [after, Session.disconnect, Step.read_bind]
  split <;> exact ⟨rfl, rfl⟩

/-- Only a question for an extension changes what a connection knows of its protocol. -/
theorem resolver_after {a : Action σ} (h : a.asks? = none) (s : Session σ) :
    (a.after s).connection.resolver = s.connection.resolver := by
  by_cases hdisconnect : a = .disconnect
  · subst hdisconnect
    exact (disconnect_after s).2
  by_cases hregister : ∃ call, a = .register call
  · obtain ⟨call, rfl⟩ := hregister
    rfl
  · obtain ⟨server, hafter⟩ :=
      sameClient_after h hdisconnect (fun call hcall => hregister ⟨call, hcall⟩) s
    rw [hafter]

/-- Only a registration changes the registry. -/
theorem registry_after {a : Action σ} (h : ∀ call, a ≠ .register call) (s : Session σ) :
    (a.after s).registry = s.registry := by
  cases hasks : a.asks? with
  | some key =>
    rw [after_of_asks hasks]
    rcases Session.extension_state_cases key s with hstate | ⟨outcome, -, hstate⟩
    · rw [hstate]
    · rw [hstate]
      rfl
  | none =>
    by_cases hdisconnect : a = .disconnect
    · subst hdisconnect
      exact (disconnect_after s).1
    · obtain ⟨server, hafter⟩ := sameClient_after hasks hdisconnect h s
      rw [hafter]

theorem consistent_after {s : Session σ} (h : s.registry.Consistent) (a : Action σ) :
    (a.after s).registry.Consistent := by
  by_cases hregister : ∃ call, a = .register call
  · obtain ⟨call, rfl⟩ := hregister
    exact call.consistent_state h
  · rw [registry_after fun call hcall => hregister ⟨call, hcall⟩]
    exact h

end Action

namespace Session

variable {σ : Type} [Transport σ]

/-- The session after a run. -/
def run (s : Session σ) (actions : List (Action σ)) : Session σ :=
  actions.foldl (fun s a => a.after s) s

@[simp] theorem run_cons (s : Session σ) (a : Action σ) (actions : List (Action σ)) :
    s.run (a :: actions) = (a.after s).run actions := rfl

/-- What every action keeps, every run keeps. -/
theorem run_keeps {P : Session σ → Prop} (hstep : ∀ (a : Action σ) s, P s → P (a.after s))
    {s : Session σ} (h : P s) (actions : List (Action σ)) : P (s.run actions) := by
  induction actions generalizing s with
  | nil => exact h
  | cons a actions ih => exact ih (hstep a s h)

/-- What no question for an extension breaks of what a connection knows, no run breaks. -/
theorem run_keeps_resolver {P : Resolver → Prop}
    (hends : ∀ {registry : Registry} {key : ExtensionKey} {resolver : Resolver} {server : σ}
      {outcome : Outcome (Resolver × σ) Extension},
      Resolver.Ends registry key query resolver server outcome → P resolver → P outcome.state.1)
    {s : Session σ} (h : P s.connection.resolver) (actions : List (Action σ)) :
    P (s.run actions).connection.resolver := by
  refine run_keeps (P := fun s => P s.connection.resolver) (fun a s hs => ?_) h actions
  cases hasks : a.asks? with
  | none => rwa [Action.resolver_after hasks]
  | some key =>
    rw [Action.after_of_asks hasks]
    rcases extension_state_cases key s with hstate | ⟨outcome, houtcome, hstate⟩
    · rwa [hstate]
    · rw [hstate]
      show P outcome.state.1
      exact hends houtcome hs

/-- The sessions that clients come to: of a connection that was opened over some registry, after
any run. -/
def Reachable (s : Session σ) : Prop :=
  ∃ (calls : List Registering) (opening : Opening σ) (server : σ) (opened : Session σ)
    (actions : List (Action σ)), opened.registry = Registry.empty.after calls ∧
      opening.Opens server opened ∧ s = opened.run actions

theorem Reachable.consistent {s : Session σ} (h : s.Reachable) : s.registry.Consistent := by
  obtain ⟨calls, -, -, opened, actions, hregistry, -, rfl⟩ := h
  refine run_keeps (P := fun s => s.registry.Consistent)
    (fun a _ hs => Action.consistent_after hs a) ?_ actions
  rw [hregistry]
  exact Registry.consistent_empty.after calls

end Session

end DisplayClient
