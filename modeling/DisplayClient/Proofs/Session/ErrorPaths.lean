import DisplayClient.Proofs.Session.CookieOutcome

/-!
# A server error is the same by every way

An error reaches a client among the events, which it waits for or looks for,
or as what a request came to, which it asks for with a cookie
(`Action.Meets`). Only among the events is its kind looked at. A buffer of
that kind, or one without any bytes, is therefore raised as the same fault
whichever way it comes (`Action.Meets.result_of_open`), and the connection's
tables say which (`Session.Tells`). A script still hands out what it did when
a client only asked for extensions in between
(`Action.Meets.after_questions`).
-/

namespace DisplayClient

/-- All questions about the type of a server error that was raised are answered by the one type that
is registered for its code. -/
theorem Raised.answersAs {tables : OpcodeTables} {raw : Buffer} {e : ServerError}
    (h : Raised tables raw (.server e)) :
    AnswersAs ((tables.errors.get? e.code).getD .error) (View.root raw) e.is e.name e.cast := by
  cases h with
  | error _ _ hview hcode _ hregistered =>
    have htype : e.type = (tables.errors.get? e.code).getD .error := by
      rw [hcode, ← hregistered]
      rfl
    rw [← htype, ← hview]
    exact e.answersAs

/-- There are no bytes, or the first one is the kind of errors. -/
def Buffer.MayBeError (raw : Buffer) : Prop := raw.bytes = [] ∨ raw.bytes.head? = some 0

instance (raw : Buffer) : Decidable raw.MayBeError := inferInstanceAs (Decidable (_ ∨ _))

namespace Session

variable {σ : Type} {raw : Buffer}

/-- Among the events, too, a buffer of the kind of errors is raised as it is for a cookie. -/
theorem classify_of_mayBeError (h : raw.MayBeError) (s : Session σ) :
    (classify raw s).result = .error (s.faultOf raw) := by
  by_cases hheader : responseHeaderSize ≤ raw.length
  · let r : Response := ⟨View.root raw, hheader⟩
    obtain ⟨kind, detail, low, high, body, hbytes⟩ := r.exists_bytes
    have hraw : raw.bytes = kind :: detail :: low :: high :: body := hbytes
    have hkind : r.kind = errorKind := by
      rw [Response.kind_of_bytes hbytes]
      rcases h with hempty | hzero
      · rw [hempty] at hraw
        cases hraw
      · rw [hraw] at hzero
        exact Option.some.inj hzero
    rw [classify_of_error hheader hkind, faultOf, Response.ofView_of_le hheader]
  · have hshort : raw.length < responseHeaderSize := Nat.lt_of_not_le hheader
    rw [classify, Step.liftM_error_bind (Response.ofView_of_lt hshort), faultOf,
      Response.ofView_of_lt hshort]

/-- What a client is told for a buffer that comes to it as an error, if it is told anything of the
buffer: a closed connection is a fault of its own. -/
structure Tells (s : Session σ) (raw : Buffer) (fault : Fault) : Prop where
  of_closed : s.connection.isConnected = false → fault = .disconnected
  of_open : s.connection.isConnected = true → Raised s.connection.resolver.tables raw fault
  answers {e : ServerError} : fault = .server e →
    AnswersAs ((s.connection.resolver.tables.errors.get? e.code).getD .error) (View.root raw)
      e.is e.name e.cast

theorem tells_of_open {s : Session σ} (hopen : s.connection.isConnected = true) (raw : Buffer) :
    s.Tells raw (s.faultOf raw) where
  of_closed hclosed := by
    rw [hopen] at hclosed
    cases hclosed
  of_open _ := s.faultOf_raised raw
  answers he := by
    have hraised := s.faultOf_raised raw
    rw [he] at hraised
    exact hraised.answersAs

theorem tells_of_closed {s : Session σ} (hclosed : s.connection.isConnected = false)
    (raw : Buffer) : s.Tells raw .disconnected where
  of_closed _ := rfl
  of_open hopen := by
    rw [hclosed] at hopen
    cases hopen
  answers he := by cases he

end Session

namespace Action

section

variable {σ : Type} [Transport σ] {raw : Buffer} {a : Action σ}

/-- The server hands the action a buffer, among the events or as the error of a request. -/
inductive Meets (raw : Buffer) (server : σ) : Action σ → Prop where
  | wait (h : (Transport.nextEvent server).1 = .ok raw) : Meets raw server .nextEvent
  | poll (h : (Transport.nextEvent? server).1 = .ok (some raw)) : Meets raw server .nextEvent?
  | reply {cookie : Cookie} {α : Type} (type : ObjectType α)
      (hreplied : cookie.request.isVoid = false)
      (h : (Transport.awaitReply cookie.sequence server).1 = .ok (.error raw)) :
    Meets raw server (.reply cookie type)
  | check {cookie : Cookie} (hchecked : (cookie.request.isVoid && cookie.request.isChecked) = true)
      (h : (Transport.awaitError cookie.sequence server).1 = .ok (some raw)) :
    Meets raw server (.check cookie)

theorem Meets.result_of_closed {s : Session σ} (h : a.Meets raw s.server)
    (hclosed : s.connection.isConnected = false) :
    (a.perform s).result = .error .disconnected := by
  have hrefusal : a.refusal? = some .disconnected := by
    cases h with
    | wait | poll => rfl
    | reply type hreplied => simp [refusal?, hreplied]
    | check hchecked => simp only [refusal?, hchecked, if_true]
  rw [perform_of_closed hclosed hrefusal]

/-- The four ways part before the buffer is looked at, and the two among the events look at its
kind. -/
theorem Meets.result_of_open {s : Session σ} (h : a.Meets raw s.server)
    (hraw : raw.MayBeError) (hopen : s.connection.isConnected = true) :
    (a.perform s).result = .error (s.faultOf raw) := by
  have hserved {α : Type} {f : IoCall σ α} {v : α} (hanswer : (f s.server).1 = .ok v) :
      Session.onServer f s = ⟨.ok v, { s with server := (f s.server).2 }, []⟩ :=
    Session.onServer_of_ok hopen (Prod.ext hanswer rfl)
  cases h with
  | wait h =>
    show (Session.nextEvent s).result = _
    rw [Session.nextEvent, Step.bind_of_ok (hserved h)]
    exact Session.classify_of_mayBeError hraw { s with server := (Transport.nextEvent s.server).2 }
  | poll h =>
    have hclassify := Session.classify_of_mayBeError hraw
      { s with server := (Transport.nextEvent? s.server).2 }
    show (Session.nextEvent? s).result = _
    rw [Session.nextEvent?, Step.bind_of_ok (hserved h)]
    simp only [Step.bind_pure_apply, hclassify]
    rfl
  | reply type hreplied h =>
    show (Session.reply _ type s).result = _
    rw [Session.reply, hreplied]
    simp only [Bool.false_eq_true, if_false]
    rw [Step.bind_of_ok (hserved h)]
    exact Session.raiseRaw_result rfl raw
  | check hchecked h =>
    show (Session.check _ s).result = _
    rw [Session.check, hchecked]
    simp only [if_true]
    rw [Step.bind_of_ok (hserved h)]
    exact Session.raiseRaw_result rfl raw

end

end Action

/-! ## Errors that a script hands out -/

namespace Script

variable {raw : Buffer} {script : Script} {sequence : UInt32}

theorem nextEvent_eq_ok_iff :
    (nextEvent script).1 = .ok raw ↔ script.events.head? = some raw := by
  rw [nextEvent]
  cases script.events <;> simp

theorem nextEvent?_eq_ok_iff :
    (nextEvent? script).1 = .ok (some raw) ↔ script.events.head? = some raw := by
  rw [nextEvent?, Except.ok.injEq]

theorem awaitReply_eq_ok_iff {outcome : ReplyOutcome} :
    (awaitReply sequence script).1 = .ok outcome ↔ script.replies sequence = some outcome := by
  rw [awaitReply]
  cases script.replies sequence <;> simp

theorem awaitError_eq_ok_iff :
    (awaitError sequence script).1 = .ok (some raw) ↔ script.errors sequence = some raw := by
  rw [awaitError, Except.ok.injEq]

end Script

namespace Action

variable {raw : Buffer} {a : Action Script}

/-- The first buffer among the events is handed to a client that waits as to one that looks. -/
theorem meets_of_head {script : Script} (h : script.events.head? = some raw) :
    Action.nextEvent.Meets raw script ∧ Action.nextEvent?.Meets raw script :=
  ⟨.wait (Script.nextEvent_eq_ok_iff.mpr h), .poll (Script.nextEvent?_eq_ok_iff.mpr h)⟩

/-- Questions for extensions leave to a script all that it has to hand out. -/
theorem Meets.after_questions {s : Session Script} (h : a.Meets raw s.server)
    (keys : List ExtensionKey) : a.Meets raw (s.run (keys.map .extension)).server := by
  have hkept (p : Piece) : Script.Agrees p (s.run (keys.map .extension)).server s.server := by
    refine Session.agrees_run (fun b hb => ?_) s
    obtain ⟨key, -, rfl⟩ := List.mem_map.mp hb
    exact nofun
  have hevents : (s.run (keys.map .extension)).server.events = s.server.events := hkept .event
  cases h with
  | wait h => exact (meets_of_head (hevents ▸ Script.nextEvent_eq_ok_iff.mp h)).1
  | poll h => exact (meets_of_head (hevents ▸ Script.nextEvent?_eq_ok_iff.mp h)).2
  | @reply cookie _ type hreplied h =>
    have hreplies : (s.run (keys.map .extension)).server.replies cookie.sequence =
        s.server.replies cookie.sequence := hkept (.reply cookie.sequence)
    refine .reply type hreplied (Script.awaitReply_eq_ok_iff.mpr ?_)
    rw [hreplies, Script.awaitReply_eq_ok_iff.mp h]
  | @check cookie hchecked h =>
    have herrors : (s.run (keys.map .extension)).server.errors cookie.sequence =
        s.server.errors cookie.sequence := hkept (.error cookie.sequence)
    refine .check hchecked (Script.awaitError_eq_ok_iff.mpr ?_)
    rw [herrors, Script.awaitError_eq_ok_iff.mp h]

end Action

namespace Session

/-- On a session, there is one fault for a buffer that may be an error, by whichever way the server
hands it to the client. -/
theorem meets_one_fault {σ : Type} [Transport σ] {raw : Buffer} (hraw : raw.MayBeError)
    (s : Session σ) : ∃ fault, s.Tells raw fault ∧ ∀ (server : σ) (a : Action σ),
      a.Meets raw server → (a.perform { s with server := server }).result = .error fault := by
  cases hopen : s.connection.isConnected with
  | true =>
    exact ⟨s.faultOf raw, tells_of_open hopen raw, fun server a h =>
      h.result_of_open (s := { s with server := server }) hraw hopen⟩
  | false =>
    exact ⟨.disconnected, tells_of_closed hopen raw, fun server a h =>
      h.result_of_closed (s := { s with server := server }) hopen⟩

/-- A buffer that may be an error is the same fault by every way, on any connection and after any
questions for extensions: a range fault, or a server error that is looked up by its code. A script
hands it out among the events, and for a request that it was scripted for, whether the client asks
for the reply or checks; questions in between do not keep it from that. -/
theorem error_paths_agree {raw : Buffer} (hraw : raw.MayBeError) :
    (∀ {σ : Type} [Transport σ] (s : Session σ) (keys : List ExtensionKey),
      let later := s.run (keys.map .extension)
      ∃ fault, later.Tells raw fault ∧ ∀ (server : σ) (a : Action σ), a.Meets raw server →
        (a.perform { later with server := server }).result = .error fault) ∧
    (∀ script : Script, script.events = [] →
      Action.nextEvent.Meets raw (script.queueEvent raw) ∧
      Action.nextEvent?.Meets raw (script.queueEvent raw)) ∧
    (∀ (script : Script) (cookie : Cookie),
      (cookie.request.isVoid = false → ∀ {α : Type} (type : ObjectType α),
        (Action.reply cookie type).Meets raw (script.scriptError cookie.sequence raw)) ∧
      ((cookie.request.isVoid && cookie.request.isChecked) = true →
        (Action.check cookie).Meets raw (script.scriptError cookie.sequence raw))) ∧
    ∀ (s : Session Script) (keys : List ExtensionKey) (a : Action Script),
      a.Meets raw s.server → a.Meets raw (s.run (keys.map .extension)).server := by
  refine ⟨fun s keys => meets_one_fault hraw _, fun script hevents =>
    Action.meets_of_head (by rw [Script.queueEvent, hevents]; rfl),
    fun script cookie => ⟨fun hreplied α type => ?_, fun hchecked => ?_⟩,
    fun s keys a h => h.after_questions keys⟩
  · exact .reply type hreplied (Script.awaitReply_eq_ok_iff.mpr
      (Script.replies_scriptOutcome cookie.sequence (.error raw) script))
  · exact .check hchecked (Script.awaitError_eq_ok_iff.mpr
      (Script.errors_scriptError cookie.sequence raw script))

/-- One error waits in both places while the extension is resolved that its code belongs to. -/
theorem error_paths_agree_of_resolved :
    let randr : ExtensionKey := .named "RANDR"
    let badOutput : TypeTag := .named "BadOutput"
    let raw : Buffer := ⟨[0, 147, 7, 0, 9], by decide⟩
    let registry := Registry.empty.insert randr ⟨.named "ExtA", [], [⟨0, badOutput⟩]⟩
    let server := Script.empty.scriptPresence "RANDR" ⟨true, 140, 89, 147⟩
    let s : Session Script :=
      ⟨registry, ⟨true, 0, .empty⟩, (server.queueEvent raw).scriptError 7 raw⟩
    let later := s.run ([randr].map .extension)
    ∃ e, e.is badOutput = true ∧ e.cast (.whole badOutput) = .ok (View.root raw) ∧
      (nextEvent later).result = .error (.server e) ∧
      (nextEvent? later).result = .error (.server e) ∧
      (reply ⟨7, .reply⟩ .bytes later).result = .error (.server e) ∧
      (check ⟨7, .checkedVoid⟩ later).result = .error (.server e) := by
  intro randr badOutput raw registry server s later
  obtain ⟨hfault, -, hscripted, hkept⟩ := error_paths_agree (show raw.MayBeError by decide)
  obtain ⟨fault, htells, hsame⟩ := hfault s [randr]
  have hraised := htells.of_open (isConnected_extension randr s)
  have hmet (a : Action Script) (h : a.Meets raw s.server) :
      (a.perform later).result = .error fault := hsame later.server a (hkept s [randr] a h)
  have hwait := hmet .nextEvent (Action.meets_of_head rfl).1
  have hpoll := hmet .nextEvent? (Action.meets_of_head rfl).2
  have hreply := hmet (.reply ⟨7, .reply⟩ .bytes) ((hscripted _ ⟨7, .reply⟩).1 rfl .bytes)
  have hcheck := hmet (.check ⟨7, .checkedVoid⟩) ((hscripted _ ⟨7, .checkedVoid⟩).2 rfl)
  have hdeclared : later.connection.resolver.tables.errors.get? 147 = some badOutput := by
    decide +kernel
  cases hraised with
  | short hshort => exact absurd hshort (by decide)
  | error e hbytes hview hcode =>
    cases hbytes
    have hanswers := htells.answers rfl
    rw [hcode, hdeclared] at hanswers
    exact ⟨e, (hanswers.is_iff badOutput).mpr rfl, hanswers.cast_of_eq rfl, hwait, hpoll, hreply,
      hcheck⟩

end Session

end DisplayClient
