import DisplayClient.Proofs.Response.Classified
import DisplayClient.Proofs.Step.Sequencing
import DisplayClient.Session.Cookie

/-!
# What a client gets of a buffer

A buffer that has the common header comes to the client as an event of the
type in its slot (`Session.eventOf`), or is raised as an error of the type in
its slot (`Session.errorOf`). Its kind decides where it comes among the events
(`gives_of_event`, `raises_of_error`); what a request came to is an error
whatever its kind.
-/

namespace DisplayClient

namespace Session

variable {σ α : Type}

/-- The event that a response is. -/
def eventOf (s : Session σ) (response : Response) : Event :=
  ⟨response, s.connection.resolver.tables.events.get? (Event.opcode ⟨response, none⟩)⟩

/-- The server error that a response is. -/
def errorOf (s : Session σ) (response : Response) : ServerError :=
  ⟨response, s.connection.resolver.tables.errors.get? response.detail⟩

theorem raise_eq (response : Response) (s : Session σ) :
    (raise response s : Outcome (Session σ) α) =
      ⟨.error (.server (s.errorOf response)), s,
        [.errorClassified response.detail (s.errorOf response).type]⟩ := rfl

theorem raiseRaw_eq {raw : Buffer} (h : responseHeaderSize ≤ raw.length) (s : Session σ) :
    (raiseRaw raw s : Outcome (Session σ) α) = raise ⟨View.root raw, h⟩ s := by
  rw [raiseRaw, Step.liftM_ok_bind (Response.ofView_of_le h)]

theorem classify_of_event {raw : Buffer} (h : responseHeaderSize ≤ raw.length)
    (hkind : (⟨View.root raw, h⟩ : Response).kind ≠ errorKind) (s : Session σ) :
    (classify raw s).result = .ok (s.eventOf ⟨View.root raw, h⟩) := by
  have hevent : (⟨View.root raw, h⟩ : Response).isError = false := by
    simpa [Response.isError] using hkind
  rw [classify, Step.liftM_ok_bind (Response.ofView_of_le h), hevent]
  rfl

theorem classify_of_error {raw : Buffer} (h : responseHeaderSize ≤ raw.length)
    (hkind : (⟨View.root raw, h⟩ : Response).kind = errorKind) (s : Session σ) :
    (classify raw s).result = .error (.server (s.errorOf ⟨View.root raw, h⟩)) := by
  have herror : (⟨View.root raw, h⟩ : Response).isError = true := by
    simpa [Response.isError] using hkind
  rw [classify, Step.liftM_ok_bind (Response.ofView_of_le h), herror]
  rfl

/-- Only the connection says what a buffer is. -/
theorem classify_congr {s t : Session σ} (h : s.connection = t.connection) (raw : Buffer) :
    (classify raw s).result = (classify raw t).result := by
  simp only [classify]
  cases Response.ofView (View.root raw) with
  | error fault => rw [Step.liftM_error_bind rfl, Step.liftM_error_bind rfl]
  | ok response =>
    rw [Step.liftM_ok_bind rfl, Step.liftM_ok_bind rfl]
    split
    · simp only [raise_eq, errorOf, h]
    · simp only [onResolver, Resolver.onTables, Step.onPart_apply, h]

theorem onServer_of_closed {s : Session σ} (hclosed : s.connection.isConnected = false)
    (f : IoCall σ α) : onServer f s = ⟨.error .disconnected, s, []⟩ := by
  rw [onServer, Step.read_bind, hclosed]
  rfl

/-- What begins with a call on the server is refused as the call is. -/
theorem onServer_bind_of_closed {β : Type} {s : Session σ}
    (hclosed : s.connection.isConnected = false) (f : IoCall σ α)
    (next : α → Step (Session σ) β) :
    (onServer f >>= next) s = ⟨.error .disconnected, s, []⟩ :=
  Step.bind_of_error (onServer_of_closed hclosed f)

theorem onServer_of_ok {s : Session σ} (hopen : s.connection.isConnected = true)
    {f : IoCall σ α} {a : α} {server : σ} (h : f s.server = (.ok a, server)) :
    onServer f s = ⟨.ok a, { s with server := server }, []⟩ := by
  rw [onServer, Step.read_bind, hopen]
  simp only [if_true, Step.onPart_apply, Step.call_apply, h]
  rfl

theorem onServer_of_error {s : Session σ} (hopen : s.connection.isConnected = true)
    {f : IoCall σ α} {cause : IoFault} {server : σ} (h : f s.server = (.error cause, server)) :
    onServer f s = ⟨.error (.io cause), { s with server := server }, []⟩ := by
  rw [onServer, Step.read_bind, hopen]
  simp only [if_true, Step.onPart_apply, Step.call_apply, h]
  rfl

variable [Transport σ]

/-- A buffer comes to the client as an event, whether it waits for the event or looks for it. -/
structure Gives (s : Session σ) (raw : Buffer) (event : Event) : Prop where
  of_wait {server server' : σ} : Transport.nextEvent server = (.ok raw, server') →
    (nextEvent { s with server := server }).result = .ok event
  of_poll {server server' : σ} : Transport.nextEvent? server = (.ok (some raw), server') →
    (nextEvent? { s with server := server }).result = .ok (some event)

/-- A buffer is raised as a server error, whether it comes among the events or is what a request
came to. -/
structure Raises (s : Session σ) (raw : Buffer) (error : ServerError) : Prop where
  of_wait {server server' : σ} : Transport.nextEvent server = (.ok raw, server') →
    (nextEvent { s with server := server }).result = .error (.server error)
  of_poll {server server' : σ} : Transport.nextEvent? server = (.ok (some raw), server') →
    (nextEvent? { s with server := server }).result = .error (.server error)
  of_check {server server' : σ} {cookie : Cookie} : cookie.request = .checkedVoid →
    Transport.awaitError cookie.sequence server = (.ok (some raw), server') →
    (check cookie { s with server := server }).result = .error (.server error)
  of_reply {server server' : σ} {cookie : Cookie} {β : Type} (type : ObjectType β) :
    cookie.request.isVoid = false →
    Transport.awaitReply cookie.sequence server = (.ok (.error raw), server') →
    (reply cookie type { s with server := server }).result = .error (.server error)

theorem gives_of_event {s : Session σ} (hopen : s.connection.isConnected = true) {raw : Buffer}
    (h : responseHeaderSize ≤ raw.length)
    (hkind : (⟨View.root raw, h⟩ : Response).kind ≠ errorKind) :
    s.Gives raw (s.eventOf ⟨View.root raw, h⟩) where
  of_wait {server server'} hserver := by
    have hraw := onServer_of_ok (s := { s with server := server }) hopen hserver
    rw [nextEvent, Step.bind_of_ok hraw]
    exact classify_of_event h hkind _
  of_poll {server server'} hserver := by
    have hraw := onServer_of_ok (s := { s with server := server }) hopen hserver
    rw [nextEvent?, Step.bind_of_ok hraw]
    simp only [Step.bind_apply, classify_of_event h hkind]
    rfl

theorem raises_of_error {s : Session σ} (hopen : s.connection.isConnected = true) {raw : Buffer}
    (h : responseHeaderSize ≤ raw.length)
    (hkind : (⟨View.root raw, h⟩ : Response).kind = errorKind) :
    s.Raises raw (s.errorOf ⟨View.root raw, h⟩) where
  of_wait {server server'} hserver := by
    have hraw := onServer_of_ok (s := { s with server := server }) hopen hserver
    rw [nextEvent, Step.bind_of_ok hraw]
    exact classify_of_error h hkind _
  of_poll {server server'} hserver := by
    have hraw := onServer_of_ok (s := { s with server := server }) hopen hserver
    rw [nextEvent?, Step.bind_of_ok hraw]
    simp only [Step.bind_apply, classify_of_error h hkind]
    rfl
  of_check {server server' cookie} hchecked hserver := by
    have hraw := onServer_of_ok (s := { s with server := server }) hopen hserver
    rw [check, hchecked]
    simp only [Request.checkedVoid, Bool.and_self, if_true]
    rw [Step.bind_of_ok hraw]
    simp only [raiseRaw_eq h, raise_eq]
    rfl
  of_reply {server server' cookie β} type hreplied hserver := by
    have hraw := onServer_of_ok (s := { s with server := server }) hopen hserver
    rw [reply, hreplied]
    simp only [Bool.false_eq_true, if_false]
    rw [Step.bind_of_ok hraw]
    simp only [raiseRaw_eq h, raise_eq]
    rfl

end Session

end DisplayClient
