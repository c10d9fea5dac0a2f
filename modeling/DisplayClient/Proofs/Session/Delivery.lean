import DisplayClient.Proofs.Session.Dispatch
import DisplayClient.Proofs.Session.Run
import DisplayClient.Transport.Script

/-!
# What comes off the event queue

Waiting for an event and looking for one take the same buffer off a script's
queue, and give the same for it (`Session.nextEvent_of_cons`,
`Session.nextEvent?_of_cons`): a range fault, a server error or an event,
which `Delivers` tells apart by the buffer's bytes.
-/

namespace DisplayClient

/-- What a client gets of a buffer among the events, by the tables of its connection. -/
inductive Delivers (tables : OpcodeTables) (raw : Buffer) : Except Fault Event → Prop where
  /-- There is no header. -/
  | short (hshort : raw.length < responseHeaderSize) :
    Delivers tables raw (.error (.range 0 responseHeaderSize raw.length))
  /-- Kind 0 is an error, looked up by its code. -/
  | error {code low high : UInt8} {body : List UInt8} (e : ServerError)
      (hbytes : raw.bytes = 0 :: code :: low :: high :: body)
      (hcode : e.code = code) (hsequence : e.sequence.toNat = low.toNat + 256 * high.toNat)
      (hregistered : e.registered = tables.errors.get? code)
      (hanswers : AnswersAs ((tables.errors.get? code).getD .error) (View.root raw) e.is e.name
        e.cast) :
    Delivers tables raw (.error (.server e))
  /-- Any other kind is an event, looked up by its kind without the synthetic bit. -/
  | event {kind detail low high : UInt8} {body : List UInt8} (e : Event)
      (hbytes : raw.bytes = kind :: detail :: low :: high :: body) (hkind : kind ≠ 0)
      (hopcode : e.opcode.toNat = kind.toNat % 128)
      (hsynthetic : e.isSynthetic = true ↔ 128 ≤ kind.toNat)
      (hregistered : e.registered = tables.events.get? e.opcode)
      (hanswers : AnswersAs ((tables.events.get? e.opcode).getD .event) (View.root raw) e.is e.name
        e.cast) :
    Delivers tables raw (.ok e)

namespace Session

theorem classify_delivers {σ : Type} (raw : Buffer) (s : Session σ) :
    Delivers s.connection.resolver.tables raw (classify raw s).result := by
  by_cases hheader : responseHeaderSize ≤ raw.length
  · let r : Response := ⟨View.root raw, hheader⟩
    obtain ⟨kind, detail, low, high, body, hbytes⟩ := r.exists_bytes
    have hkind : r.kind = kind := Response.kind_of_bytes hbytes
    by_cases hzero : kind = 0
    · have hdetail : r.detail = detail := Response.detail_of_bytes hbytes
      subst hdetail
      rw [classify_of_error hheader (hkind.trans hzero)]
      exact .error (s.errorOf r) (by rw [← hzero]; exact hbytes) rfl
        (Response.sequence_toNat_of_bytes hbytes) rfl (s.errorOf r).answersAs
    · rw [classify_of_event hheader fun h => hzero (hkind.symm.trans h)]
      have hopcode := (s.eventOf r).opcode_toNat
      have hsynthetic := (s.eventOf r).isSynthetic_iff
      have heventKind : (s.eventOf r).kind = kind := hkind
      rw [heventKind] at hopcode hsynthetic
      exact .event (s.eventOf r) hbytes hzero hopcode hsynthetic rfl (s.eventOf r).answersAs
  · have hshort : raw.length < responseHeaderSize := Nat.lt_of_not_le hheader
    rw [classify, Step.liftM_error_bind (Response.ofView_of_lt hshort)]
    exact .short hshort

/-- The session with another event queue. -/
def withEvents (s : Session Script) (events : List Buffer) : Session Script :=
  { s with server := { s.server with events := events } }

/-- What a buffer is does not hang on what comes after it. -/
theorem classify_withEvents (s : Session Script) (raw : Buffer) (events : List Buffer) :
    (classify raw (s.withEvents events)).result = (classify raw s).result := by
  apply classify_congr
  rfl

variable {s : Session Script} {raw : Buffer} {rest : List Buffer}

theorem nextEvent_of_cons (hopen : s.connection.isConnected = true)
    (hevents : s.server.events = raw :: rest) :
    (nextEvent s).result = (classify raw s).result ∧ (nextEvent s).state = s.withEvents rest := by
  have htaken : Transport.nextEvent s.server = (.ok raw, { s.server with events := rest }) := by
    show Script.nextEvent s.server = _
    rw [Script.nextEvent, hevents]
  rw [nextEvent, Step.bind_of_ok (onServer_of_ok hopen htaken)]
  exact ⟨classify_withEvents s raw rest, classify_state raw _⟩

theorem nextEvent?_of_cons (hopen : s.connection.isConnected = true)
    (hevents : s.server.events = raw :: rest) :
    (nextEvent? s).result = (classify raw s).result.map some ∧
      (nextEvent? s).state = s.withEvents rest := by
  have htaken : Transport.nextEvent? s.server =
      (.ok (some raw), { s.server with events := rest }) := by
    show Script.nextEvent? s.server = _
    rw [Script.nextEvent?, hevents]
    rfl
  rw [nextEvent?, Step.bind_of_ok (onServer_of_ok hopen htaken)]
  simp only [Step.bind_pure_apply]
  exact ⟨congrArg (·.map some) (classify_withEvents s raw rest), classify_state raw _⟩

theorem nextEvent_of_nil (hopen : s.connection.isConnected = true)
    (hevents : s.server.events = []) :
    nextEvent s = ⟨.error (.io (.unscripted .event)), s, []⟩ := by
  have hnone : Transport.nextEvent s.server = (.error (.unscripted .event), s.server) := by
    show Script.nextEvent s.server = _
    rw [Script.nextEvent, hevents]
  exact Step.bind_of_error (onServer_of_error hopen hnone)

theorem nextEvent?_of_nil (hopen : s.connection.isConnected = true)
    (hevents : s.server.events = []) : nextEvent? s = ⟨.ok none, s, []⟩ := by
  have hsame : { s.server with events := [] } = s.server := by rw [← hevents]
  have hnone : Transport.nextEvent? s.server = (.ok none, s.server) := by
    show Script.nextEvent? s.server = _
    rw [Script.nextEvent?, hevents, List.head?_nil, List.tail_nil, hsame]
  rw [nextEvent?, Step.bind_of_ok (onServer_of_ok hopen hnone)]
  rfl

/-- On an open connection, the buffer at the head of the queue is delivered, by waiting for it as by
looking for it, and taken off; an empty queue is a fault for a client that waits, and stays as it
is. -/
theorem event_delivery {s : Session Script} (hopen : s.connection.isConnected = true) :
    (s.server.events = [] →
      nextEvent s = ⟨.error (.io (.unscripted .event)), s, []⟩ ∧
        nextEvent? s = ⟨.ok none, s, []⟩) ∧
    ∀ raw rest, s.server.events = raw :: rest →
      ∃ delivered, Delivers s.connection.resolver.tables raw delivered ∧
        (nextEvent s).result = delivered ∧ (nextEvent s).state = s.withEvents rest ∧
        (nextEvent? s).result = delivered.map some ∧ (nextEvent? s).state = s.withEvents rest := by
  refine ⟨fun hevents => ⟨nextEvent_of_nil hopen hevents, nextEvent?_of_nil hopen hevents⟩,
    fun raw rest hevents => ?_⟩
  obtain ⟨hwait, hwaited⟩ := nextEvent_of_cons hopen hevents
  obtain ⟨hpoll, hpolled⟩ := nextEvent?_of_cons hopen hevents
  exact ⟨_, classify_delivers raw s, hwait, hwaited, hpoll, hpolled⟩

/-- A client sent an event with opcode 0, which the core declares; the event is of the declared
type, and of none that only has the same name. -/
theorem event_delivery_of_synthetic :
    let alpha : TypeTag := .named "Alpha"
    let twin : TypeTag := ⟨"AlphaTwin", "Alpha"⟩
    let registry := Registry.empty.insert .core ⟨.named "CoreA", [⟨0, alpha⟩], []⟩
    let raw : Buffer := ⟨[0x80, 7, 1, 2, 9], by decide⟩
    let s : Session Script :=
      ⟨registry, ⟨true, 0, .initial registry⟩, Script.empty.queueEvent raw⟩
    ∃ e, (nextEvent s).result = .ok e ∧ (nextEvent? s).result = .ok (some e) ∧
      (nextEvent s).state.server.events = [] ∧ e.opcode = 0 ∧ e.isSynthetic = true ∧
      e.is alpha = true ∧ e.is twin = false ∧ e.name = twin.name ∧
      e.cast (.whole alpha) = .ok (View.root raw) ∧
      e.cast (.whole twin) = .error (.typeMismatch twin alpha) := by
  intro alpha twin registry raw s
  obtain ⟨delivered, hdelivers, hwait, hstate, hpoll, -⟩ :=
    (event_delivery (show s.connection.isConnected = true from rfl)).2 raw [] rfl
  cases hdelivers with
  | short hshort => exact absurd hshort (by decide)
  | error e hbytes => cases hbytes
  | event e hbytes hkind hopcode hsynthetic hregistered hanswers =>
    cases hbytes
    have hzero : e.opcode = 0 := UInt8.toNat_inj.mp hopcode
    have htype : (s.connection.resolver.tables.events.get? e.opcode).getD .event = alpha := by
      rw [hzero]
      rfl
    rw [htype] at hanswers
    refine ⟨e, hwait, hpoll, by rw [hstate]; rfl, hzero, hsynthetic.mpr (by decide),
      (hanswers.is_iff alpha).mpr rfl, ?_, hanswers.name_eq, hanswers.cast_of_eq rfl,
      hanswers.cast_of_ne (by decide)⟩
    rw [Bool.eq_false_iff]
    exact fun htwin => absurd ((hanswers.is_iff twin).mp htwin) (by decide)

end Session

end DisplayClient
