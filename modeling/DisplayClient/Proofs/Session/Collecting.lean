import DisplayClient.Proofs.Session.Delivery
import DisplayClient.Proofs.Session.Transcript
import DisplayClient.Proofs.Transport.Pieces

/-!
# Collecting from a script

A client collects by taking events and by resolving cookies. What it gets is
what the script has in the piece that it asks for, as its connection reads it
(`Session.reply_result`, `Session.check_result`), and all that it leaves
behind is the script without that piece (`Collects.after_eq`). So a script's
piece decides what is collected, whatever else the script holds
(`Collects.result_congr`), and stays what it is as long as nobody takes it or
scripts it anew (`Session.agrees_run`).
-/

namespace DisplayClient

namespace Session

variable {σ α : Type}

/-- The fault that a client gets for an error. -/
def faultOf (s : Session σ) (raw : Buffer) : Fault :=
  match Response.ofView (View.root raw) with
  | .ok response => .server (s.errorOf response)
  | .error fault => fault

/-- What a client gets of what a request came to, if it came to something. -/
def replyOf (s : Session σ) (type : ObjectType α) : Option ReplyOutcome → Except Fault α
  | none => .error (.io (.unscripted .reply))
  | some (.error raw) => .error (s.faultOf raw)
  | some (.reply raw) => Reply.trim (View.root raw) >>= type.fromView

/-- What a client gets of the error of a request, if it had one. -/
def checkOf (s : Session σ) : Option Buffer → Except Fault Unit
  | none => .ok ()
  | some raw => .error (s.faultOf raw)

/-- Only the connection says what an error is. -/
theorem faultOf_congr {s t : Session σ} (h : s.connection = t.connection) (raw : Buffer) :
    s.faultOf raw = t.faultOf raw := by
  simp only [faultOf, errorOf, h]

theorem raiseRaw_result {s t : Session σ} (h : s.connection = t.connection) (raw : Buffer) :
    (raiseRaw raw s : Outcome (Session σ) α).result = .error (t.faultOf raw) := by
  rw [← faultOf_congr h, raiseRaw, faultOf]
  cases Response.ofView (View.root raw) with
  | error fault => rw [Step.liftM_error_bind rfl]
  | ok response => rw [Step.liftM_ok_bind rfl, raise_eq]

theorem replyOf_congr {s t : Session σ} (h : s.connection = t.connection) (type : ObjectType α)
    (outcome? : Option ReplyOutcome) : s.replyOf type outcome? = t.replyOf type outcome? := by
  cases outcome? with
  | none => rfl
  | some outcome =>
    cases outcome with
    | reply raw => rfl
    | error raw => exact congrArg Except.error (faultOf_congr h raw)

theorem checkOf_congr {s t : Session σ} (h : s.connection = t.connection) (raw? : Option Buffer) :
    s.checkOf raw? = t.checkOf raw? := by
  cases raw? with
  | none => rfl
  | some raw => exact congrArg Except.error (faultOf_congr h raw)

/-! ## Cookies -/

theorem reply_of_void [Transport σ] {cookie : Cookie} (h : cookie.request.isVoid = true)
    (type : ObjectType α) (s : Session σ) : reply cookie type s = ⟨.error .noReply, s, []⟩ := by
  rw [reply, h]
  rfl

theorem check_of_not_checkable [Transport σ] {cookie : Cookie}
    (h : (cookie.request.isVoid && cookie.request.isChecked) = false) (s : Session σ) :
    check cookie s = ⟨.error .notCheckable, s, []⟩ := by
  rw [check, h]
  rfl

variable {s : Session Script}

theorem reply_result (hopen : s.connection.isConnected = true) {cookie : Cookie}
    (hreplied : cookie.request.isVoid = false) (type : ObjectType α) :
    (reply cookie type s).result = s.replyOf type (s.server.replies cookie.sequence) := by
  rw [reply, hreplied]
  simp only [Bool.false_eq_true, if_false]
  cases houtcome : s.server.replies cookie.sequence with
  | none =>
    have hnone : Transport.awaitReply cookie.sequence s.server =
        (.error (.unscripted .reply), s.server) := by
      show Script.awaitReply _ _ = _
      rw [Script.awaitReply, houtcome]
    rw [Step.bind_of_error (onServer_of_error hopen hnone)]
    rfl
  | some outcome =>
    have hsome : (Transport.awaitReply cookie.sequence s.server).1 = .ok outcome := by
      show (Script.awaitReply _ _).1 = _
      rw [Script.awaitReply, houtcome]
    rw [Step.bind_of_ok (onServer_of_ok hopen (Prod.ext hsome rfl))]
    cases outcome with
    | error raw => exact raiseRaw_result rfl raw
    | reply raw =>
      simp only [replyOf]
      cases Reply.trim (View.root raw) with
      | error fault =>
        rw [Step.liftM_error_bind rfl]
        rfl
      | ok view =>
        rw [Step.liftM_ok_bind rfl]
        rfl

theorem check_result (hopen : s.connection.isConnected = true) {cookie : Cookie}
    (hchecked : (cookie.request.isVoid && cookie.request.isChecked) = true) :
    (check cookie s).result = s.checkOf (s.server.errors cookie.sequence) := by
  rw [check, hchecked]
  simp only [if_true]
  have herror : (Transport.awaitError cookie.sequence s.server).1 =
      .ok (s.server.errors cookie.sequence) := rfl
  rw [Step.bind_of_ok (onServer_of_ok hopen (Prod.ext herror rfl))]
  cases s.server.errors cookie.sequence with
  | none => rfl
  | some raw => exact raiseRaw_result rfl raw

/-! ## Events -/

variable {t : Session Script}

theorem nextEvent_congr (hopen : s.connection.isConnected = true)
    (hconnection : t.connection = s.connection) (hevents : t.server.events = s.server.events) :
    (nextEvent t).result = (nextEvent s).result := by
  have hopen' : t.connection.isConnected = true := by rw [hconnection, hopen]
  cases hqueue : s.server.events with
  | nil => rw [nextEvent_of_nil hopen hqueue, nextEvent_of_nil hopen' (hevents.trans hqueue)]
  | cons raw rest =>
    rw [(nextEvent_of_cons hopen hqueue).1, (nextEvent_of_cons hopen' (hevents.trans hqueue)).1,
      classify_congr hconnection]

theorem nextEvent?_congr (hopen : s.connection.isConnected = true)
    (hconnection : t.connection = s.connection) (hevents : t.server.events = s.server.events) :
    (nextEvent? t).result = (nextEvent? s).result := by
  have hopen' : t.connection.isConnected = true := by rw [hconnection, hopen]
  cases hqueue : s.server.events with
  | nil => rw [nextEvent?_of_nil hopen hqueue, nextEvent?_of_nil hopen' (hevents.trans hqueue)]
  | cons raw rest =>
    rw [(nextEvent?_of_cons hopen hqueue).1, (nextEvent?_of_cons hopen' (hevents.trans hqueue)).1,
      classify_congr hconnection]

end Session

namespace Action

/-! ## Actions -/

section

variable {σ : Type}

/-- The action takes an event or resolves a cookie. -/
inductive Collects : Action σ → Prop where
  | nextEvent : Collects .nextEvent
  | nextEvent? : Collects .nextEvent?
  | reply {α : Type} (cookie : Cookie) (type : ObjectType α) : Collects (.reply cookie type)
  | check (cookie : Cookie) : Collects (.check cookie)

/-- Whether the action takes an event. -/
def takesEvent : Action σ → Bool
  | .nextEvent | .nextEvent? => true
  | _ => false

/-- The cookie that the action resolves, if it resolves one. -/
def resolved? : Action σ → Option Cookie
  | .reply cookie _ | .check cookie => some cookie
  | _ => none

/-- The piece that the action takes. A cookie that is resolved the wrong way takes none. -/
def piece? : Action σ → Option Piece
  | .nextEvent | .nextEvent? => some .event
  | .reply cookie _ => if cookie.request.isVoid then none else some (.reply cookie.sequence)
  | .check cookie =>
    if cookie.request.isVoid && cookie.request.isChecked then some (.error cookie.sequence)
    else none
  | _ => none

end

variable {a : Action Script} {s t : Session Script} {p : Piece}

theorem Collects.of_resolved? {cookie : Cookie} (h : a.resolved? = some cookie) : a.Collects := by
  cases a with
  | reply cookie type => exact .reply cookie type
  | check cookie => exact .check cookie
  | _ => cases h

/-- A cookie is resolved by its number. -/
theorem sequence?_of_piece? {p : Piece} (h : a.piece? = some p) :
    p.sequence? = a.resolved?.map Cookie.sequence := by
  cases a with
  | nextEvent | nextEvent? =>
    cases h
    rfl
  | reply cookie type =>
    simp only [piece?] at h
    split at h <;> cases h
    rfl
  | check cookie =>
    simp only [piece?] at h
    split at h <;> cases h
    rfl
  | _ => cases h

theorem Collects.resolved?_of_not_takesEvent (h : a.Collects) (hevent : a.takesEvent = false) :
    ∃ cookie, a.resolved? = some cookie := by
  cases h with
  | nextEvent | nextEvent? => cases hevent
  | reply cookie | check cookie => exact ⟨cookie, rfl⟩

theorem Collects.of_takesEvent (h : a.takesEvent = true) : a.Collects := by
  cases a with
  | nextEvent => exact .nextEvent
  | nextEvent? => exact .nextEvent?
  | _ => cases h

theorem piece?_of_takesEvent (h : a.takesEvent = true) : a.piece? = some .event := by
  cases a with
  | nextEvent | nextEvent? => rfl
  | _ => cases h

theorem Collects.call_eq (h : a.Collects) (script : Script) :
    a.call script = script.without a.piece? := by
  cases h with
  | nextEvent => exact script.nextEvent_eq_take
  | nextEvent? => rfl
  | reply cookie type =>
    cases hvoid : cookie.request.isVoid with
    | true => simp only [call, piece?, hvoid, if_true, id, Script.without]
    | false =>
      simp only [call, piece?, hvoid, Bool.false_eq_true, if_false, Script.without]
      exact script.awaitReply_eq_take cookie.sequence
  | check cookie =>
    cases hchecked : cookie.request.isVoid && cookie.request.isChecked with
    | true =>
      simp only [call, piece?, hchecked, if_true, Script.without]
      rfl
    | false => simp only [call, piece?, hchecked, Bool.false_eq_true, if_false, id, Script.without]

/-- All that a client leaves that collects something is the script without it. -/
theorem Collects.after_eq (h : a.Collects) (hopen : s.connection.isConnected = true) :
    a.after s = { s with server := s.server.without a.piece? } := by
  have hasks : a.asks? = none := by cases h <;> rfl
  have hdisconnect : a ≠ .disconnect := by cases h <;> exact nofun
  have hregister : ∀ call, a ≠ .register call := by cases h <;> exact nofun
  have hserver : (a.after s).server = s.server.without a.piece? := by
    rcases server_after_of_asks_none hasks s with hcalled | ⟨hclosed, -⟩
    · rw [hcalled, h.call_eq]
    · rw [hopen] at hclosed
      cases hclosed
  obtain ⟨server, hafter⟩ := sameClient_after hasks hdisconnect hregister s
  rw [hafter] at hserver ⊢
  rw [← hserver]

theorem Collects.connection_after (h : a.Collects) (hopen : s.connection.isConnected = true) :
    (a.after s).connection = s.connection := by
  rw [h.after_eq hopen]

theorem Collects.isConnected_after (h : a.Collects) (hopen : s.connection.isConnected = true) :
    (a.after s).connection.isConnected = true := by
  rw [h.connection_after hopen, hopen]

/-- What a client collects hangs on the piece alone, and on how its connection reads it. -/
theorem Collects.result_congr (h : a.Collects) (hopen : s.connection.isConnected = true)
    (hconnection : t.connection = s.connection)
    (hagrees : ∀ p, a.piece? = some p → Script.Agrees p t.server s.server) :
    (a.perform t).result = (a.perform s).result := by
  have hopen' : t.connection.isConnected = true := by rw [hconnection, hopen]
  cases h with
  | nextEvent => exact Session.nextEvent_congr hopen hconnection (hagrees .event rfl)
  | nextEvent? => exact Session.nextEvent?_congr hopen hconnection (hagrees .event rfl)
  | reply cookie type =>
    cases hvoid : cookie.request.isVoid with
    | true =>
      show (Session.reply cookie type t).result = (Session.reply cookie type s).result
      rw [Session.reply_of_void hvoid, Session.reply_of_void hvoid]
    | false =>
      have hreplies : t.server.replies cookie.sequence = s.server.replies cookie.sequence :=
        hagrees (.reply cookie.sequence) (by simp [piece?, hvoid])
      show (Session.reply cookie type t).result = (Session.reply cookie type s).result
      rw [Session.reply_result hopen hvoid, Session.reply_result hopen' hvoid, hreplies,
        Session.replyOf_congr hconnection]
  | check cookie =>
    cases hchecked : cookie.request.isVoid && cookie.request.isChecked with
    | true =>
      have herrors : t.server.errors cookie.sequence = s.server.errors cookie.sequence :=
        hagrees (.error cookie.sequence) (by simp only [piece?, hchecked, if_true])
      show (Session.check cookie t).result = (Session.check cookie s).result
      rw [Session.check_result hopen hchecked, Session.check_result hopen' hchecked, herrors,
        Session.checkOf_congr hconnection]
    | false =>
      show (Session.check cookie t).result = (Session.check cookie s).result
      rw [Session.check_of_not_checkable hchecked, Session.check_of_not_checkable hchecked]

/-- Collecting a piece leaves what else there is to collect as it was. -/
theorem Collects.result_after {b : Action Script} (ha : a.Collects) (hb : b.Collects)
    (hopen : s.connection.isConnected = true)
    (hne : ∀ p, b.piece? = some p → a.piece? ≠ some p) :
    (b.perform (a.after s)).result = (b.perform s).result := by
  rw [ha.after_eq hopen]
  exact hb.result_congr hopen rfl fun p hp => Script.agrees_without (hne p hp) s.server

/-! ## Pieces that stay -/

/-- The action does not take the piece, and scripts nothing for it. -/
def Leaves (p : Piece) : Action Script → Prop
  | .server change => ∀ script, Script.Agrees p (change script) script
  | a => a.piece? ≠ some p

theorem agrees_call (h : a.Leaves p) (script : Script) :
    Script.Agrees p (a.call script) script := by
  have hcollected (hcollects : a.Collects) (hpiece : a.piece? ≠ some p) :
      Script.Agrees p (a.call script) script := by
    rw [hcollects.call_eq]
    exact Script.agrees_without hpiece script
  cases a with
  | server change => exact h script
  | nextEvent => exact hcollected .nextEvent h
  | nextEvent? => exact hcollected .nextEvent? h
  | reply cookie type => exact hcollected (.reply cookie type) h
  | check cookie => exact hcollected (.check cookie) h
  | _ => cases p <;> rfl

theorem agrees_after (h : a.Leaves p) (s : Session Script) :
    Script.Agrees p (a.after s).server s.server := by
  rcases a.server_after s with hsame | hcalled
  · rw [hsame]
    exact .refl p s.server
  · rw [hcalled]
    exact agrees_call h s.server

end Action

namespace Session

/-- What every action of a run leaves, the run leaves. -/
theorem agrees_run {p : Piece} {actions : List (Action Script)} (h : ∀ a ∈ actions, a.Leaves p)
    (s : Session Script) : Script.Agrees p (s.run actions).server s.server := by
  induction actions generalizing s with
  | nil => exact .refl p s.server
  | cons a actions ih =>
    have hrest := ih (fun b hb => h b (List.mem_cons_of_mem a hb)) (a.after s)
    exact hrest.trans (Action.agrees_after (h a List.mem_cons_self) s)

end Session

end DisplayClient
