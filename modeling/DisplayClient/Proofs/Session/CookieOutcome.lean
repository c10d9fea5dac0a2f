import DisplayClient.Proofs.Response.Trimming
import DisplayClient.Proofs.Session.Closing

/-!
# What a client gets by a cookie

The cookie is looked at first, and then the connection; only then is anything
taken off the script. An error that was scripted is raised, whatever its kind
(`Session.faultOf_raised`). A reply is decoded from the size that it declares
(`Session.replyOf_replied`), so that bytes after it make no difference
(`SameReply.trim`); one that is not there as a whole is a range fault before
anything is decoded. `Replied` and `Checked` have one constructor for each
end, and `Session.cookie_outcome` puts them together.
-/

namespace DisplayClient

/-- What a client is told of for a buffer that came as an error, by the tables of its connection. -/
inductive Raised (tables : OpcodeTables) (raw : Buffer) : Fault → Prop where
  /-- There is no header. -/
  | short (hshort : raw.length < responseHeaderSize) :
    Raised tables raw (.range 0 responseHeaderSize raw.length)
  /-- The error is looked up by the second byte. Its kind does not matter. -/
  | error {kind code low high : UInt8} {body : List UInt8} (e : ServerError)
      (hbytes : raw.bytes = kind :: code :: low :: high :: body) (hview : e.view = View.root raw)
      (hcode : e.code = code) (hsequence : e.sequence.toNat = low.toNat + 256 * high.toNat)
      (hregistered : e.registered = tables.errors.get? code) :
    Raised tables raw (.server e)

/-- What a client gets, as a `type`, of what its request came to. -/
inductive Replied (tables : OpcodeTables) {α : Type} (type : ObjectType α) :
    Option ReplyOutcome → Except Fault α → Prop where
  /-- The script has nothing for the request. -/
  | unscripted : Replied tables type none (.error (.io (.unscripted .reply)))
  /-- An error is raised. -/
  | error {raw : Buffer} {fault : Fault} (hraised : Raised tables raw fault) :
    Replied tables type (some (.error raw)) (.error fault)
  /-- The length field is not there. -/
  | headless {raw : Buffer} (hlength : raw.length < 8) :
    Replied tables type (some (.reply raw)) (.error (.range 4 4 raw.length))
  /-- The reply is not there as a whole. -/
  | incomplete {raw : Buffer} (hlength : 8 ≤ raw.length) (hsize : raw.length < raw.declaredSize) :
    Replied tables type (some (.reply raw)) (.error (.range 0 raw.declaredSize raw.length))
  /-- The first bytes are decoded, as many as the reply declares. -/
  | whole {raw : Buffer} {view : View} (hlength : 8 ≤ raw.length)
      (hsize : raw.declaredSize ≤ raw.length) (hview : Reply.Trimmed (View.root raw) view) :
    Replied tables type (some (.reply raw)) (type.fromView view)

namespace Replied

variable {tables : OpcodeTables} {outcome? : Option ReplyOutcome} {result : Except Fault Reply}

/-- A client that takes what comes for a reply gets nothing but whole replies. -/
theorem whole_of_ok (h : Replied tables .reply outcome? result) {r : Reply} (hok : result = .ok r) :
    ∃ raw, outcome? = some (.reply raw) ∧ 8 ≤ raw.length ∧ raw.declaredSize ≤ raw.length ∧
      Reply.Trimmed (View.root raw) r.view ∧ r.length.toNat = raw.declaredLength := by
  cases h with
  | unscripted | error | headless | incomplete => cases hok
  | @whole raw view hlength hsize hview =>
    obtain ⟨r', hdecoded, hkept, hcounted⟩ := Reply.ofView_of_trimmed hview hsize
    have hsame : r' = r := Except.ok.inj (hdecoded.symm.trans hok)
    subst hsame
    rw [hkept]
    exact ⟨raw, rfl, hlength, hsize, hview, hcounted⟩

theorem ok_of_whole {raw : Buffer} (h : Replied tables .reply (some (.reply raw)) result)
    (hlength : 8 ≤ raw.length) (hsize : raw.declaredSize ≤ raw.length) :
    ∃ r, result = .ok r := by
  cases h with
  | headless hheadless => exact absurd hlength (Nat.not_le.mpr hheadless)
  | incomplete _ hincomplete => exact absurd hsize (Nat.not_le.mpr hincomplete)
  | whole _ _ hview =>
    obtain ⟨r, hdecoded, -⟩ := Reply.ofView_of_trimmed hview hsize
    exact ⟨r, hdecoded⟩

end Replied

/-- What a client gets of the error of the request that it checks. -/
inductive Checked (tables : OpcodeTables) : Option Buffer → Except Fault Unit → Prop where
  | none : Checked tables none (.ok ())
  | error {raw : Buffer} {fault : Fault} (hraised : Raised tables raw fault) :
    Checked tables (some raw) (.error fault)

/-- Both buffers hold the reply that the first declares, with whatever after it. -/
structure SameReply (raw raw' : Buffer) : Prop where
  whole : raw.declaredSize ≤ raw.length
  whole' : raw.declaredSize ≤ raw'.length
  bytes_eq : raw'.bytes.take raw.declaredSize = raw.bytes.take raw.declaredSize

theorem SameReply.declaredSize_eq {raw raw' : Buffer} (h : SameReply raw raw') :
    raw'.declaredSize = raw.declaredSize :=
  Buffer.declaredSize_congr raw.header_le_declaredSize h.bytes_eq

/-- Both are trimmed to the same bytes, and to the same view if both or neither go on. -/
theorem SameReply.trim {raw raw' : Buffer} (h : SameReply raw raw') :
    ∃ view view', Reply.trim (View.root raw) = .ok view ∧
      Reply.trim (View.root raw') = .ok view' ∧ view'.bytes = view.bytes ∧
      ((raw'.length = raw.declaredSize ↔ raw.length = raw.declaredSize) → view' = view) := by
  have hwhole' : raw'.declaredSize ≤ raw'.length := by
    rw [h.declaredSize_eq]
    exact h.whole'
  obtain ⟨view, htrim, hview⟩ := Reply.trim_of_whole (v := View.root raw) h.whole
  obtain ⟨view', htrim', hview'⟩ := Reply.trim_of_whole (v := View.root raw') hwhole'
  exact ⟨view, view', htrim, htrim', hview.bytes_congr hview' h.bytes_eq,
    hview.congr hview' h.bytes_eq rfl⟩

namespace Session

variable {α : Type} {s : Session Script} {cookie : Cookie} {type : ObjectType α}

theorem faultOf_raised {σ : Type} (s : Session σ) (raw : Buffer) :
    Raised s.connection.resolver.tables raw (s.faultOf raw) := by
  by_cases hheader : responseHeaderSize ≤ raw.length
  · let r : Response := ⟨View.root raw, hheader⟩
    obtain ⟨kind, detail, low, high, body, hbytes⟩ := r.exists_bytes
    have hdetail : r.detail = detail := Response.detail_of_bytes hbytes
    have hfault : s.faultOf raw = .server (s.errorOf r) := by
      rw [faultOf, Response.ofView_of_le hheader]
    rw [hfault]
    subst hdetail
    exact .error (s.errorOf r) hbytes rfl rfl (Response.sequence_toNat_of_bytes hbytes) rfl
  · have hshort : raw.length < responseHeaderSize := Nat.lt_of_not_le hheader
    rw [faultOf, Response.ofView_of_lt hshort]
    exact .short hshort

theorem replyOf_replied (s : Session Script) (type : ObjectType α)
    (outcome? : Option ReplyOutcome) :
    Replied s.connection.resolver.tables type outcome? (s.replyOf type outcome?) := by
  cases outcome? with
  | none => exact .unscripted
  | some outcome =>
    cases outcome with
    | error raw => exact .error (s.faultOf_raised raw)
    | reply raw =>
      simp only [replyOf]
      by_cases hlength : 8 ≤ raw.length
      · by_cases hsize : raw.declaredSize ≤ raw.length
        · obtain ⟨view, htrim, hview⟩ := Reply.trim_of_whole (v := View.root raw) hsize
          rw [htrim]
          exact .whole hlength hsize hview
        · have hincomplete : raw.length < raw.declaredSize := Nat.lt_of_not_le hsize
          rw [Reply.trim_of_partial (v := View.root raw) hlength hincomplete]
          exact .incomplete hlength hincomplete
      · have hheadless : raw.length < 8 := Nat.lt_of_not_le hlength
        rw [Reply.trim_of_headless (v := View.root raw) hheadless]
        exact .headless hheadless

theorem checkOf_checked (s : Session Script) (raw? : Option Buffer) :
    Checked s.connection.resolver.tables raw? (s.checkOf raw?) := by
  cases raw? with
  | none => exact .none
  | some raw => exact .error (s.faultOf_raised raw)

/-- The session in which the request of a number came to a reply. -/
def replying (s : Session Script) (sequence : UInt32) (raw : Buffer) : Session Script :=
  { s with server := s.server.scriptReply sequence raw }

theorem reply_replying (hopen : s.connection.isConnected = true)
    (hreplied : cookie.request.isVoid = false) (type : ObjectType α) (raw : Buffer) :
    (reply cookie type (s.replying cookie.sequence raw)).result =
      Reply.trim (View.root raw) >>= type.fromView := by
  have hscripted : (s.replying cookie.sequence raw).server.replies cookie.sequence =
      some (.reply raw) := Script.replies_scriptOutcome cookie.sequence (.reply raw) s.server
  rw [reply_result (s := s.replying cookie.sequence raw) hopen hreplied, hscripted, replyOf]

/-- What a client gets for the reply of a cookie, as a `type`. -/
structure AnswersReply (s : Session Script) (cookie : Cookie) (type : ObjectType α) : Prop where
  /-- A void request has no reply, open connection or not. -/
  of_void : cookie.request.isVoid = true → reply cookie type s = ⟨.error .noReply, s, []⟩
  of_closed : cookie.request.isVoid = false → s.connection.isConnected = false →
    reply cookie type s = ⟨.error .disconnected, s, []⟩
  of_open : cookie.request.isVoid = false → s.connection.isConnected = true →
    Replied s.connection.resolver.tables type (s.server.replies cookie.sequence)
        (reply cookie type s).result ∧
      (reply cookie type s).state =
        { s with server := s.server.take (.reply cookie.sequence) }
  /-- The bytes after a reply make no difference to what is seen of the view's bytes. -/
  seen_of_same : cookie.request.isVoid = false → s.connection.isConnected = true →
    ∀ {raw raw' : Buffer}, SameReply raw raw' → ∀ {β : Type} (see : Except Fault α → β),
      (∀ v w : View, v.bytes = w.bytes → see (type.fromView v) = see (type.fromView w)) →
      see (reply cookie type (s.replying cookie.sequence raw')).result =
        see (reply cookie type (s.replying cookie.sequence raw)).result
  /-- They make none to anything, as long as there are any, or none. -/
  eq_of_same : cookie.request.isVoid = false → s.connection.isConnected = true →
    ∀ {raw raw' : Buffer}, SameReply raw raw' →
      (raw'.length = raw.declaredSize ↔ raw.length = raw.declaredSize) →
      (reply cookie type (s.replying cookie.sequence raw')).result =
        (reply cookie type (s.replying cookie.sequence raw)).result

/-- When a client gets a reply that it takes for no more than a reply, and how large that is. -/
structure AnswersPlainReply (s : Session Script) (cookie : Cookie) : Prop where
  ok_iff : cookie.request.isVoid = false → s.connection.isConnected = true →
    ((∃ r, (reply cookie .reply s).result = .ok r) ↔
      ∃ raw, s.server.replies cookie.sequence = some (.reply raw) ∧ 8 ≤ raw.length ∧
        32 + 4 * raw.declaredLength ≤ raw.length)
  size_of_ok {r : Reply} : (reply cookie .reply s).result = .ok r →
    ObjectType.reply.size r = 32 + 4 * r.length.toNat ∧
      ∃ raw, s.server.replies cookie.sequence = some (.reply raw) ∧
        r.length.toNat = raw.declaredLength ∧
        r.view.bytes = raw.bytes.take (32 + 4 * raw.declaredLength)

/-- What a client gets that checks the request of a cookie. -/
structure AnswersCheck (s : Session Script) (cookie : Cookie) : Prop where
  of_not_checkable : (cookie.request.isVoid && cookie.request.isChecked) = false →
    check cookie s = ⟨.error .notCheckable, s, []⟩
  of_closed : (cookie.request.isVoid && cookie.request.isChecked) = true →
    s.connection.isConnected = false → check cookie s = ⟨.error .disconnected, s, []⟩
  of_open : (cookie.request.isVoid && cookie.request.isChecked) = true →
    s.connection.isConnected = true →
    Checked s.connection.resolver.tables (s.server.errors cookie.sequence)
        (check cookie s).result ∧
      (check cookie s).state = { s with server := s.server.take (.error cookie.sequence) }

theorem answersReply (s : Session Script) (cookie : Cookie) (type : ObjectType α) :
    s.AnswersReply cookie type where
  of_void hvoid := reply_of_void hvoid type s
  of_closed hreplied hclosed := reply_of_closed hclosed hreplied type
  of_open hreplied hopen := by
    have hpiece : (Action.reply cookie type : Action Script).piece? =
        some (.reply cookie.sequence) := by simp [Action.piece?, hreplied]
    have hstate := (Action.Collects.reply cookie type).after_eq hopen
    rw [hpiece] at hstate
    refine ⟨?_, hstate⟩
    rw [reply_result hopen hreplied]
    exact s.replyOf_replied type _
  seen_of_same hreplied hopen raw raw' hsame β see hsee := by
    obtain ⟨view, view', htrim, htrim', hbytes, -⟩ := hsame.trim
    rw [reply_replying hopen hreplied, reply_replying hopen hreplied, htrim, htrim']
    exact hsee view' view hbytes
  eq_of_same hreplied hopen raw raw' hsame hend := by
    obtain ⟨view, view', htrim, htrim', -, heq⟩ := hsame.trim
    rw [reply_replying hopen hreplied, reply_replying hopen hreplied, htrim, htrim', heq hend]

/-- Only on an open connection does a client get something, and only for a request with a reply. -/
theorem open_of_reply_ok {a : α} (h : (reply cookie type s).result = .ok a) :
    cookie.request.isVoid = false ∧ s.connection.isConnected = true := by
  have hanswers := s.answersReply cookie type
  cases hvoid : cookie.request.isVoid with
  | true =>
    rw [hanswers.of_void hvoid] at h
    cases h
  | false =>
    cases hopen : s.connection.isConnected with
    | true => exact ⟨rfl, rfl⟩
    | false =>
      rw [hanswers.of_closed hvoid hopen] at h
      cases h

theorem answersPlainReply (s : Session Script) (cookie : Cookie) : s.AnswersPlainReply cookie where
  ok_iff hreplied hopen := by
    obtain ⟨hresult, -⟩ := (s.answersReply cookie .reply).of_open hreplied hopen
    constructor
    · rintro ⟨r, hok⟩
      obtain ⟨raw, hscripted, hlength, hsize, -⟩ := hresult.whole_of_ok hok
      exact ⟨raw, hscripted, hlength, hsize⟩
    · rintro ⟨raw, hscripted, hlength, hsize⟩
      rw [hscripted] at hresult
      exact hresult.ok_of_whole hlength hsize
  size_of_ok {r} hok := by
    obtain ⟨hreplied, hopen⟩ := open_of_reply_ok hok
    obtain ⟨hresult, -⟩ := (s.answersReply cookie .reply).of_open hreplied hopen
    obtain ⟨raw, hscripted, -, hsize, hview, hlength⟩ := hresult.whole_of_ok hok
    refine ⟨?_, raw, hscripted, hlength, hview.bytes_eq⟩
    rw [hlength]
    exact hview.length_eq (v := View.root raw) hsize

theorem answersCheck (s : Session Script) (cookie : Cookie) : s.AnswersCheck cookie where
  of_not_checkable hrequest := check_of_not_checkable hrequest s
  of_closed hrequest hclosed := check_of_closed hclosed hrequest
  of_open hrequest hopen := by
    have hpiece : (Action.check cookie : Action Script).piece? =
        some (.error cookie.sequence) := by simp only [Action.piece?, hrequest, if_true]
    have hstate := (Action.Collects.check cookie).after_eq hopen
    rw [hpiece] at hstate
    refine ⟨?_, hstate⟩
    rw [check_result hopen hrequest]
    exact s.checkOf_checked _

/-- What a cookie's request came to is what its client gets, whatever the script holds and whatever
the connection knows: the reply, decoded from the size that it declares, or the error, raised. -/
theorem cookie_outcome (s : Session Script) (cookie : Cookie) :
    (∀ {α : Type} (type : ObjectType α), s.AnswersReply cookie type) ∧
      s.AnswersPlainReply cookie ∧ s.AnswersCheck cookie :=
  ⟨s.answersReply cookie, s.answersPlainReply cookie, s.answersCheck cookie⟩

/-- A reply of one unit came with three bytes after it. It is taken for a reply of 36 bytes, as it
would be without them; its request cannot be checked, though an error is scripted for it. -/
theorem cookie_outcome_of_overlong :
    let header : List UInt8 := [1, 0, 7, 0, 1, 0, 0, 0]
    let exact : Buffer := ⟨header ++ List.replicate 28 5, by decide⟩
    let overlong : Buffer := ⟨header ++ List.replicate 28 5 ++ [6, 7, 8], by decide⟩
    let cookie : Cookie := ⟨7, .reply⟩
    let start : Session Script := ⟨.empty, ⟨true, 0, .empty⟩, Script.empty.scriptError 7 .empty⟩
    let s := start.replying 7 overlong
    check cookie s = ⟨.error .notCheckable, s, []⟩ ∧
      (∃ r, (reply cookie .reply s).result = .ok r ∧ ObjectType.reply.size r = 36) ∧
      ((reply cookie .bytes s).result.map (·.bytes)) = .ok exact.bytes ∧
      (reply cookie .reply s).state.server.replies 7 = none := by
  intro header exact overlong cookie start s
  obtain ⟨hreply, hplain, hcheck⟩ := cookie_outcome s cookie
  obtain ⟨hbytes, -, -⟩ := cookie_outcome start cookie
  have hsame : SameReply exact overlong := ⟨by decide, by decide, rfl⟩
  have hstate := ((hreply .reply).of_open rfl rfl).2
  obtain ⟨r, hok⟩ := (hplain.ok_iff rfl rfl).mpr ⟨overlong, rfl, by decide, by decide⟩
  obtain ⟨hsize, raw, hscripted, hlength, -⟩ := hplain.size_of_ok hok
  cases hscripted
  refine ⟨hcheck.of_not_checkable rfl, ⟨r, hok, ?_⟩, ?_, ?_⟩
  · rw [hsize, hlength]
    rfl
  · exact (hbytes .bytes).seen_of_same rfl rfl hsame (·.map (·.bytes))
      fun v w h => congrArg Except.ok h
  · rw [hstate]
    rfl

end Session

end DisplayClient
