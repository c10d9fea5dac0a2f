import DisplayClient.Proofs.Session.Run

/-!
# What a run tells the client

Every action of a run comes to a value or a fault (`Action.perform`), and the
run goes on from what it leaves (`Action.state_perform`). The transcript of a
run is its actions with what came of them, in order (`Session.transcript`). An
action makes one call on the server (`Action.call`) or none
(`Action.server_after`).
-/

namespace DisplayClient

namespace Action

variable {σ : Type}

/-- What an action gives, unless it fails. -/
def Value : Action σ → Type
  | .extension _ | .core => Extension
  | .coreModule _ => ExtensionModule
  | .nextEvent => Event
  | .nextEvent? => Option Event
  | .send _ _ => Cookie
  | @reply _ α _ _ => α
  | .requestLimit | .freshId => UInt32
  | .setup => View
  | .register _ => Bool
  | .check _ | .flush | .prefetchRequestLimit | .disconnect | .server _ => Unit

variable [Transport σ]

/-- Performs an action. -/
def perform : (a : Action σ) → Step (Session σ) a.Value
  | .extension key => Session.extension key
  | .core => Session.core
  | .coreModule type => Session.coreModule type
  | .nextEvent => Session.nextEvent
  | .nextEvent? => Session.nextEvent?
  | .send request data => Session.send request data
  | .reply cookie type => Session.reply cookie type
  | .check cookie => Session.check cookie
  | .flush => Session.flush
  | .requestLimit => Session.requestLimit
  | .prefetchRequestLimit => Session.prefetchRequestLimit
  | .freshId => Session.freshId
  | .setup => Session.setup
  | .disconnect => Session.disconnect
  | .register call =>
    call.perform.onPart Session.registry fun registry s => { s with registry := registry }
  | .server change => Step.modify fun s => { s with server := change s.server }

theorem state_perform (a : Action σ) (s : Session σ) : (a.perform s).state = a.after s := by
  cases a <;> rfl

/-- What the server is after the call that an action makes, if it makes one. -/
def call : Action σ → σ → σ
  | .extension key => fun server => (Transport.presenceOf key server).2
  | .core | .coreModule _ => fun server => (Transport.presenceOf .core server).2
  | .nextEvent => fun server => (Transport.nextEvent server).2
  | .nextEvent? => fun server => (Transport.nextEvent? server).2
  | .send request data => fun server => (Transport.send request data server).2
  | .reply cookie _ =>
    if cookie.request.isVoid then id
    else fun server => (Transport.awaitReply cookie.sequence server).2
  | .check cookie =>
    if cookie.request.isVoid && cookie.request.isChecked then
      fun server => (Transport.awaitError cookie.sequence server).2
    else id
  | .flush => fun server => (Transport.flush server).2
  | .freshId => fun server => (Transport.freshId server).2
  | .prefetchRequestLimit => Transport.prefetchRequestLimit
  | .disconnect => Transport.disconnect
  | .server change => change
  | .requestLimit | .setup | .register _ => id

theorem call_of_asks {a : Action σ} {key : ExtensionKey} (h : a.asks? = some key) :
    a.call = fun server => (Transport.presenceOf key server).2 := by
  cases a <;> simp only [asks?, Option.some.injEq, reduceCtorEq] at h <;> subst h <;> rfl

end Action

namespace Session

variable {σ α : Type}

/-- A call is made unless the connection is closed. -/
theorem server_onServer (f : IoCall σ α) (s : Session σ) :
    (onServer f s).state.server = (f s.server).2 ∨
      s.connection.isConnected = false ∧ (onServer f s).state.server = s.server := by
  rw [onServer, Step.read_bind]
  cases hopen : s.connection.isConnected with
  | false => exact .inr ⟨rfl, rfl⟩
  | true => exact .inl rfl

variable [Transport σ]

/-- A question for an extension that is settled leaves the server alone; so does every question on
a closed connection. -/
theorem server_extension (key : ExtensionKey) (s : Session σ) :
    (extension key s).state.server = s.server ∨
      (extension key s).state.server = (Transport.presenceOf key s.server).2 := by
  rcases extension_state_cases key s with hstate | ⟨outcome, hends, hstate⟩
  · exact .inl (by rw [hstate])
  · have hserver : (extension key s).state.server = outcome.state.2 := by rw [hstate]; rfl
    rw [hserver]
    cases hends with
    | settled | unknown => exact .inl rfl
    | unanswered _ _ _ _ _ hquery | absent _ _ _ _ _ _ hquery | crowded _ _ _ _ _ _ _ _ hquery
    | resolved _ _ _ _ _ _ hquery =>
      rw [query, Step.call_apply] at hquery
      exact .inr (congrArg Outcome.state hquery).symm

end Session

namespace Action

variable {σ : Type} [Transport σ]

/-- An action that asks for no extension makes its call, unless the connection is closed. -/
theorem server_after_of_asks_none {a : Action σ} (hasks : a.asks? = none) (s : Session σ) :
    (a.after s).server = a.call s.server ∨
      s.connection.isConnected = false ∧ (a.after s).server = s.server := by
  cases a with
  | extension | core | coreModule => cases hasks
  | register | server => exact .inl rfl
  | flush | requestLimit | prefetchRequestLimit | freshId | setup =>
    exact Session.server_onServer _ s
  | disconnect =>
    rw [after, Session.disconnect, Step.read_bind]
    cases hopen : s.connection.isConnected with
    | false => exact .inr ⟨rfl, rfl⟩
    | true => exact .inl rfl
  | nextEvent =>
    rw [after, Session.state_nextEvent]
    exact Session.server_onServer _ s
  | nextEvent? =>
    rw [after, Session.state_nextEvent?]
    exact Session.server_onServer _ s
  | send request data =>
    rw [after, Session.state_send]
    exact Session.server_onServer _ s
  | check cookie =>
    rw [after, call, Session.state_check]
    split
    · exact Session.server_onServer _ s
    · exact .inl rfl
  | reply cookie type =>
    rw [after, call, Session.state_reply]
    split
    · exact .inl rfl
    · exact Session.server_onServer _ s

/-- An action makes one call on the server, or none. -/
theorem server_after (a : Action σ) (s : Session σ) :
    (a.after s).server = s.server ∨ (a.after s).server = a.call s.server := by
  cases hasks : a.asks? with
  | none =>
    rcases server_after_of_asks_none hasks s with hcalled | ⟨-, hsame⟩
    · exact .inr hcalled
    · exact .inl hsame
  | some key =>
    rw [after_of_asks hasks, call_of_asks hasks]
    exact Session.server_extension key s

end Action

namespace Session

variable {σ : Type} [Transport σ]

/-- An action with what comes of it. -/
def answer (s : Session σ) (a : Action σ) : (a : Action σ) × Except Fault a.Value :=
  ⟨a, (a.perform s).result⟩

@[simp] theorem answer_fst (s : Session σ) (a : Action σ) : (s.answer a).1 = a := rfl

/-- The actions of a run, each with what came of it. -/
def transcript (s : Session σ) : List (Action σ) → List ((a : Action σ) × Except Fault a.Value)
  | [] => []
  | a :: actions => s.answer a :: (a.after s).transcript actions

end Session

end DisplayClient
