import DisplayClient.Proofs.Session.Issuing

/-!
# A script that is shared

Any number of clients may be connected to one script, and others use it
directly (`SharedScript.Deed`). The script hands out two kinds of numbers, to
requests and as ids (`Grant`). Whatever is done, the script records the requests
that it numbers and nothing else, and both kinds are counted on without a gap
(`Script.Allots`), by one deed (`SharedScript.allots_after`) and so by all of
them (`SharedScript.allots_run`).
-/

namespace DisplayClient

/-- What a script hands out. -/
inductive Grant where
  /-- A request is received and gets a number. -/
  | request (sent : SentRequest)
  | id (number : UInt32)
  deriving DecidableEq

namespace Grant

/-- The requests among the grants. -/
def requests (grants : List Grant) : List SentRequest :=
  grants.filterMap fun
    | .request sent => some sent
    | .id _ => none

/-- The ids among the grants. -/
def ids (grants : List Grant) : List UInt32 :=
  grants.filterMap fun
    | .request _ => none
    | .id number => some number

theorem requests_append (grants grants' : List Grant) :
    requests (grants ++ grants') = requests grants ++ requests grants' := List.filterMap_append

theorem ids_append (grants grants' : List Grant) :
    ids (grants ++ grants') = ids grants ++ ids grants' := List.filterMap_append

end Grant

namespace Script

open Grant (requests ids)

theorem getElem_numbers (first : UInt32) {count k : Nat} (h : k < (numbers first count).length) :
    (numbers first count)[k] = first + UInt32.ofNat k := by
  simp [numbers]

/-- From one script to the other this is handed out: the requests are recorded, and requests and
ids have the next numbers of their kind. -/
structure Allots (grants : List Grant) (s t : Script) : Prop where
  sent_eq : t.sent = s.sent ++ requests grants
  sequences_eq : (requests grants).map SentRequest.sequence =
    numbers s.nextSequence (requests grants).length
  nextSequence_eq : t.nextSequence = s.nextSequence + UInt32.ofNat (requests grants).length
  ids_eq : ids grants = numbers s.nextId (ids grants).length
  nextId_eq : t.nextId = s.nextId + UInt32.ofNat (ids grants).length

variable {s t u : Script} {grants grants' : List Grant}

theorem allots_nil (hsent : t.sent = s.sent) (hsequence : t.nextSequence = s.nextSequence)
    (hid : t.nextId = s.nextId) : Allots [] s t where
  sent_eq := hsent.trans (List.append_nil _).symm
  sequences_eq := rfl
  nextSequence_eq := hsequence.trans (UInt32.add_zero _).symm
  ids_eq := rfl
  nextId_eq := hid.trans (UInt32.add_zero _).symm

theorem Allots.refl (s : Script) : Allots [] s s := allots_nil rfl rfl rfl

theorem allots_send (request : Request) (data : Buffer) (s : Script) :
    Allots [.request ⟨s.nextSequence, request, data⟩] s (send request data s).2 where
  sent_eq := rfl
  sequences_eq := (numbers_one s.nextSequence).symm
  nextSequence_eq := rfl
  ids_eq := rfl
  nextId_eq := (UInt32.add_zero _).symm

theorem allots_freshId (s : Script) : Allots [.id s.nextId] s (freshId s).2 where
  sent_eq := (List.append_nil _).symm
  sequences_eq := rfl
  nextSequence_eq := (UInt32.add_zero _).symm
  ids_eq := (numbers_one s.nextId).symm
  nextId_eq := rfl

theorem Allots.trans (h : Allots grants s t) (h' : Allots grants' t u) :
    Allots (grants ++ grants') s u where
  sent_eq := by rw [h'.sent_eq, h.sent_eq, Grant.requests_append, List.append_assoc]
  sequences_eq := by
    rw [Grant.requests_append, List.map_append, List.length_append, numbers_add, h.sequences_eq,
      h'.sequences_eq, h.nextSequence_eq]
  nextSequence_eq := by
    rw [h'.nextSequence_eq, h.nextSequence_eq, Grant.requests_append, List.length_append,
      UInt32.ofNat_add, UInt32.add_assoc]
  ids_eq := by
    rw [Grant.ids_append, List.length_append, numbers_add, ← h.ids_eq, ← h.nextId_eq, ← h'.ids_eq]
  nextId_eq := by
    rw [h'.nextId_eq, h.nextId_eq, Grant.ids_append, List.length_append, UInt32.ofNat_add,
      UInt32.add_assoc]

/-- Where nothing is handed out, the record and the counts stay. -/
theorem Allots.unchanged (h : Allots [] s t) :
    t.sent = s.sent ∧ t.nextSequence = s.nextSequence ∧ t.nextId = s.nextId :=
  ⟨h.sent_eq.trans (List.append_nil _), h.nextSequence_eq.trans (UInt32.add_zero _),
    h.nextId_eq.trans (UInt32.add_zero _)⟩

theorem allots_without (p? : Option Piece) (s : Script) : Allots [] s (s.without p?) := by
  refine allots_nil (s.sent_without p?) (s.nextSequence_without p?) ?_
  cases p? with
  | none => rfl
  | some p => cases p <;> rfl

theorem Allots.sequence_eq (h : Allots grants s t) {k : Nat} (hk : k < (requests grants).length) :
    (requests grants)[k].sequence = s.nextSequence + UInt32.ofNat k := by
  have hk' : k < ((requests grants).map SentRequest.sequence).length := by rwa [List.length_map]
  have hsequence := (List.getElem_of_eq h.sequences_eq hk').trans (getElem_numbers _ _)
  rwa [List.getElem_map] at hsequence

theorem Allots.id_eq (h : Allots grants s t) {k : Nat} (hk : k < (ids grants).length) :
    (ids grants)[k] = s.nextId + UInt32.ofNat k :=
  (List.getElem_of_eq h.ids_eq hk).trans (getElem_numbers _ _)

/-- Too few requests for their numbers to wrap have different numbers. -/
theorem Allots.nodup_sequences (h : Allots grants s t)
    (hfew : (requests grants).length ≤ 2 ^ 32) :
    ((requests grants).map SentRequest.sequence).Nodup := by
  rw [h.sequences_eq]
  exact nodup_numbers _ hfew

theorem Allots.nodup_ids (h : Allots grants s t) (hfew : (ids grants).length ≤ 2 ^ 32) :
    (ids grants).Nodup := by
  rw [h.ids_eq]
  exact nodup_numbers _ hfew

/-! ## The script itself -/

/-- What can be done with a script, by whom it is written for and by whom it serves. -/
inductive Use where
  -- Writing the script.
  | queueEvent (raw : Buffer)
  | scriptReply (sequence : UInt32) (raw : Buffer)
  | scriptError (sequence : UInt32) (raw : Buffer)
  | scriptPresence (name : String) (presence : Presence)
  | scriptRequestLimit (length : UInt32)
  | scriptSetup (raw : Buffer)
  | refuse
  -- Serving a client.
  | connect (target : DisplayName)
  | disconnect
  | flush
  | prefetchRequestLimit
  | nextEvent
  | nextEvent?
  | presenceOf (key : ExtensionKey)
  | send (request : Request) (data : Buffer)
  | awaitReply (sequence : UInt32)
  | awaitError (sequence : UInt32)
  | freshId

namespace Use

/-- The script after it was used. -/
def after : Use → Script → Script
  | queueEvent raw => Script.queueEvent raw
  | scriptReply sequence raw => Script.scriptReply sequence raw
  | scriptError sequence raw => Script.scriptError sequence raw
  | scriptPresence name presence => Script.scriptPresence name presence
  | scriptRequestLimit length => Script.scriptRequestLimit length
  | scriptSetup raw => Script.scriptSetup raw
  | refuse => Script.refuse
  | connect target => fun s => (Script.connect target s).2
  | disconnect => Transport.disconnect
  | flush => fun s => (Transport.flush s).2
  | prefetchRequestLimit => Transport.prefetchRequestLimit
  | nextEvent => fun s => (Script.nextEvent s).2
  | nextEvent? => fun s => (Script.nextEvent? s).2
  | presenceOf key => fun s => (Script.presenceOf key s).2
  | send request data => fun s => (Script.send request data s).2
  | awaitReply sequence => fun s => (Script.awaitReply sequence s).2
  | awaitError sequence => fun s => (Script.awaitError sequence s).2
  | freshId => fun s => (Script.freshId s).2

/-- What the use is granted. -/
def grant? : Use → Script → Option Grant
  | send request data, s =>
    (Script.send request data s).1.toOption.map fun sequence => .request ⟨sequence, request, data⟩
  | freshId, s => (Script.freshId s).1.toOption.map .id
  | _, _ => none

theorem allots_after (use : Use) (s : Script) : Allots (use.grant? s).toList s (use.after s) := by
  cases use with
  | send request data => exact allots_send request data s
  | freshId => exact allots_freshId s
  | nextEvent =>
    have hafter : (nextEvent.after s) = s.without (some .event) := s.nextEvent_eq_take
    exact hafter ▸ allots_without _ s
  | awaitReply sequence =>
    have hafter : ((awaitReply sequence).after s) = s.without (some (.reply sequence)) :=
      s.awaitReply_eq_take sequence
    exact hafter ▸ allots_without _ s
  | _ => exact allots_nil rfl rfl rfl

end Use

theorem state_connection_connect (registry : Registry) (name environment : Option String)
    (s : Script) :
    (Connection.connect registry Script.connect name environment s).state = s := by
  rw [Connection.connect]
  cases DisplayName.resolve name environment with
  | error fault => rw [Step.liftM_error_bind rfl]
  | ok target =>
    rw [Step.liftM_ok_bind rfl, Step.log_bind, Step.bind_apply, Step.call_apply]
    cases (Script.connect target s).1 with
    | error cause => rfl
    | ok screen =>
      obtain ⟨lines, hstart⟩ := Opening.start_eq registry screen (Script.connect target s).2
      exact congrArg Outcome.state hstart

end Script

namespace Session

variable {s : Session Script}

theorem freshId_of_closed (h : s.connection.isConnected = false) :
    freshId s = ⟨.error .disconnected, s, []⟩ := onServer_of_closed h _

theorem freshId_of_open (h : s.connection.isConnected = true) :
    freshId s = ⟨.ok s.server.nextId, { s with server := (Script.freshId s.server).2 }, []⟩ :=
  onServer_of_ok h rfl

end Session

namespace Action

/-- The action is the client's own. -/
def ByClient {σ : Type} : Action σ → Prop
  | .server _ => False
  | _ => True

/-- What the client is granted by what comes of its action. -/
def grant? : (a : Action Script) → Except Fault a.Value → Option Grant
  | .send request data, .ok cookie => some (.request ⟨cookie.sequence, request, data⟩)
  | .freshId, .ok number => some (.id number)
  | _, _ => none

open Script (Allots)

/-- The calls that clients make, but for those that are granted something. -/
theorem allots_call {a : Action Script} (hclient : a.ByClient)
    (hsend : ∀ request data, a ≠ .send request data) (hid : a ≠ .freshId) (script : Script) :
    Allots [] script (a.call script) := by
  have hcollected (hcollects : a.Collects) : Allots [] script (a.call script) := by
    rw [hcollects.call_eq]
    exact Script.allots_without _ script
  cases a with
  | server change => exact hclient.elim
  | send request data => exact absurd rfl (hsend request data)
  | freshId => exact absurd rfl hid
  | nextEvent => exact hcollected .nextEvent
  | nextEvent? => exact hcollected .nextEvent?
  | reply cookie type => exact hcollected (.reply cookie type)
  | check cookie => exact hcollected (.check cookie)
  | _ => exact Script.allots_nil rfl rfl rfl

theorem allots_after {a : Action Script} (hclient : a.ByClient) (s : Session Script) :
    Allots (a.grant? (a.perform s).result).toList s.server (a.after s).server := by
  by_cases hsend : ∃ request data, a = .send request data
  · obtain ⟨request, data, rfl⟩ := hsend
    simp only [after, perform]
    cases hopen : s.connection.isConnected with
    | false =>
      rw [Session.send_of_closed hopen]
      exact .refl s.server
    | true =>
      rw [Session.send_of_open hopen]
      exact Script.allots_send request data s.server
  by_cases hid : a = .freshId
  · subst hid
    simp only [after, perform]
    cases hopen : s.connection.isConnected with
    | false =>
      rw [Session.freshId_of_closed hopen]
      exact .refl s.server
    | true =>
      rw [Session.freshId_of_open hopen]
      exact Script.allots_freshId s.server
  -- Nothing else is granted anything, and none of the other calls changes the counts.
  have hsend' (request : Request) (data : Buffer) : a ≠ .send request data :=
    fun heq => hsend ⟨request, data, heq⟩
  have hnone : a.grant? (a.perform s).result = none := by
    cases a with
    | send request data => exact absurd rfl (hsend' request data)
    | freshId => exact absurd rfl hid
    | _ => rfl
  rw [hnone]
  rcases a.server_after s with hsame | hcalled
  · rw [hsame]
    exact .refl s.server
  · rw [hcalled]
    exact allots_call hclient hsend' hid s.server

end Action

/-- A script and the connections to it. -/
structure SharedScript where
  script : Script
  connections : List Connection

namespace SharedScript

/-- A new script, to which nobody is connected. -/
def new : SharedScript := ⟨.empty, []⟩

/-- What can be done with a script that is shared: somebody connects to it, or one of the clients
acts, or the script itself is used. A connection may find any modules registered. -/
inductive Deed where
  | wrap (registry : Registry) (screen : UInt64)
  | connect (registry : Registry) (name environment : Option String)
  | act (client : Nat) (registry : Registry) (a : Action Script) (hclient : a.ByClient)
  | use (use : Script.Use)

/-- Somebody tried to connect. -/
def join (s : SharedScript) (outcome : Outcome Script Connection) : SharedScript where
  script := outcome.state
  connections := s.connections ++ outcome.result.toOption.toList

/-- What one of the clients acts on, if there is such a client. -/
def session? (client : Nat) (registry : Registry) (s : SharedScript) : Option (Session Script) :=
  s.connections[client]?.map fun connection => ⟨registry, connection, s.script⟩

/-- What a client leaves. -/
def put (client : Nat) (s : SharedScript) (t : Session Script) : SharedScript where
  script := t.server
  connections := s.connections.set client t.connection

namespace Deed

def after : Deed → SharedScript → SharedScript
  | wrap registry screen, s => s.join (Connection.start registry screen s.script)
  | connect registry name environment, s =>
    s.join (Connection.connect registry Script.connect name environment s.script)
  | act client registry a _, s =>
    (s.session? client registry).elim s fun session => s.put client (a.after session)
  | use u, s => { s with script := u.after s.script }

/-- What the deed is granted. -/
def grant? : Deed → SharedScript → Option Grant
  | wrap .., _ | connect .., _ => none
  | act client registry a _, s =>
    (s.session? client registry).bind fun session => a.grant? (a.perform session).result
  | use u, s => u.grant? s.script

end Deed

open Script (Allots numbers)

theorem allots_after (d : Deed) (s : SharedScript) :
    Allots (d.grant? s).toList s.script (d.after s).script := by
  cases d with
  | wrap registry screen =>
    obtain ⟨lines, hstart⟩ := Opening.start_eq registry screen s.script
    have hscript : ((Deed.wrap registry screen).after s).script = s.script :=
      congrArg Outcome.state hstart
    rw [hscript]
    exact .refl s.script
  | connect registry name environment =>
    have hscript : ((Deed.connect registry name environment).after s).script = s.script :=
      Script.state_connection_connect registry name environment s.script
    rw [hscript]
    exact .refl s.script
  | use u => exact u.allots_after s.script
  | act client registry a hclient =>
    rw [Deed.grant?, Deed.after]
    cases hsession : s.session? client registry with
    | none => exact .refl s.script
    | some session =>
      have hscript : session.server = s.script := by
        rw [session?, Option.map_eq_some_iff] at hsession
        obtain ⟨connection, -, rfl⟩ := hsession
        rfl
      rw [← hscript]
      exact Action.allots_after hclient session

/-- The shared script after some deeds. -/
def run (deeds : List Deed) (s : SharedScript) : SharedScript :=
  deeds.foldl (fun s d => d.after s) s

/-- What the deeds are granted, in order. -/
def grants : List Deed → SharedScript → List Grant
  | [], _ => []
  | d :: deeds, s => (d.grant? s).toList ++ grants deeds (d.after s)

theorem allots_run (deeds : List Deed) (s : SharedScript) :
    Allots (grants deeds s) s.script (run deeds s).script := by
  induction deeds generalizing s with
  | nil => exact .refl s.script
  | cons d deeds ih => exact (allots_after d s).trans (ih (d.after s))

/-- A client gets a cookie for every request that it sends on an open connection, and none on a
closed one, where nothing happens. A deed that is granted nothing leaves the record and the counts
alone. Whatever is done with a new script, by its clients and by others, it records exactly the
requests that were numbered, in order, and nothing else; unless the numbers wrap, the first of them
has the number 1, and each the one after that of its predecessor, so that no two have the same. The
ids that are given out are the numbers from `0x00400000` on, each once. -/
theorem counts_stay_in_step :
    (∀ (s : Session Script) (request : Request) (data : Buffer),
      (s.connection.isConnected = true →
        (Session.send request data s).result = .ok ⟨s.server.nextSequence, request⟩) ∧
      (s.connection.isConnected = false →
        Session.send request data s = ⟨.error .disconnected, s, []⟩)) ∧
    (∀ (d : Deed) (s : SharedScript), d.grant? s = none →
      (d.after s).script.sent = s.script.sent ∧
      (d.after s).script.nextSequence = s.script.nextSequence ∧
      (d.after s).script.nextId = s.script.nextId) ∧
    ∀ deeds : List Deed,
      let requests := Grant.requests (grants deeds new)
      let ids := Grant.ids (grants deeds new)
      (run deeds new).script.sent = requests ∧
      (requests.length < 2 ^ 32 →
        (∀ (k : Nat) (h : k < requests.length), requests[k].sequence.toNat = k + 1) ∧
        (requests.map SentRequest.sequence).Nodup) ∧
      (ids.length < 2 ^ 32 →
        (∀ (k : Nat) (h : k < ids.length), ids[k] = 0x00400000 + UInt32.ofNat k) ∧
        ids.Nodup) := by
  refine ⟨fun s request data => ⟨fun hopen => ?_, fun hclosed => ?_⟩, fun d s hnone => ?_,
    fun deeds => ?_⟩
  · rw [Session.send_of_open hopen]
  · exact Session.send_of_closed hclosed request data
  · have hallots := allots_after d s
    rw [hnone] at hallots
    exact hallots.unchanged
  · have hallots := allots_run deeds new
    refine ⟨hallots.sent_eq, fun hfew => ⟨fun k hk => ?_, hallots.nodup_sequences hfew.le⟩,
      fun hfew => ⟨fun k hk => hallots.id_eq hk, hallots.nodup_ids hfew.le⟩⟩
    have hwrap : k < 2 ^ 32 ∧ (1 + k) % 2 ^ 32 = k + 1 := by omega
    rw [hallots.sequence_eq hk, UInt32.toNat_add, UInt32.toNat_ofNat_of_lt' hwrap.1]
    exact hwrap.2

/-- Two clients and somebody else send requests by turns, one of the clients until it disconnects,
while a reply is scripted, an event comes, a request is checked and ids are given out. -/
theorem counts_stay_in_step_of_three :
    let raw : Buffer := ⟨List.replicate 32 0, by decide⟩
    let deeds : List Deed := [
      .wrap .empty 0, .act 0 .empty (.send .checkedVoid .empty) trivial,
      .connect .empty (some ":1") none, .use (.send .reply raw), .use (.scriptReply 2 raw),
      .use (.queueEvent raw), .act 1 .empty .freshId trivial, .act 0 .empty .nextEvent? trivial,
      .act 0 .empty (.check ⟨1, .checkedVoid⟩) trivial, .act 0 .empty .disconnect trivial,
      .act 0 .empty (.send .reply .empty) trivial, .act 1 .empty (.send .uncheckedVoid raw) trivial,
      .use .freshId]
    let t := run deeds new
    t.script.sent = [⟨1, .checkedVoid, .empty⟩, ⟨2, .reply, raw⟩, ⟨3, .uncheckedVoid, raw⟩] ∧
      (t.script.sent.map SentRequest.sequence).Nodup ∧
      Grant.ids (grants deeds new) = [0x00400000, 0x00400001] := by
  intro raw deeds t
  obtain ⟨-, -, hrun⟩ := counts_stay_in_step
  obtain ⟨hsent, hsequences, -⟩ := hrun deeds
  have hrequests : Grant.requests (grants deeds new) =
      [⟨1, .checkedVoid, .empty⟩, ⟨2, .reply, raw⟩, ⟨3, .uncheckedVoid, raw⟩] := by decide +kernel
  have hfew : (Grant.requests (grants deeds new)).length < 2 ^ 32 := by
    rw [hrequests]
    decide
  exact ⟨hsent.trans hrequests, hsent ▸ (hsequences hfew).2, by decide +kernel⟩

end SharedScript

end DisplayClient
