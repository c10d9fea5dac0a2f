import DisplayClient.Proofs.Session.CookieOrder

/-!
# What a cookie comes to

A cookie is told by its number alone. What its request came to is what was
scripted last for that number, and is handed out once to a client that waits
for the reply and once to one that checks the request; the order in which
cookies are resolved makes no difference (`Session.cookies_correlate`).
-/

namespace DisplayClient

namespace Session

variable {s : Session Script}

/-- On an open connection, a client that waits for the reply to the request of a number gets what
`outcome?` says, by whatever cookie it asks and as whatever type. -/
def Replies (s : Session Script) (sequence : UInt32) (outcome? : Option ReplyOutcome) : Prop :=
  ∀ {α : Type} (cookie : Cookie) (type : ObjectType α), s.connection.isConnected = true →
    cookie.sequence = sequence → cookie.request.isVoid = false →
    (reply cookie type s).result = s.replyOf type outcome?

/-- On an open connection, a client that checks the request of a number gets what `raw?` says. -/
def Checks (s : Session Script) (sequence : UInt32) (raw? : Option Buffer) : Prop :=
  ∀ cookie : Cookie, s.connection.isConnected = true → cookie.sequence = sequence →
    (cookie.request.isVoid && cookie.request.isChecked) = true →
    (check cookie s).result = s.checkOf raw?

/-- What a script has for a reply is handed out whenever it is asked for, as long as nobody takes it
or writes it anew. -/
theorem replies_run {sequence : UInt32} {outcome? : Option ReplyOutcome}
    (h : s.server.replies sequence = outcome?) {later : List (Action Script)}
    (hleaves : ∀ a ∈ later, a.Leaves (.reply sequence)) :
    (s.run later).Replies sequence outcome? := by
  intro α cookie type hopen hsequence hreplied
  have hkept : (s.run later).server.replies sequence = s.server.replies sequence :=
    agrees_run hleaves s
  rw [reply_result hopen hreplied, hsequence, hkept, h]

theorem checks_run {sequence : UInt32} {raw? : Option Buffer}
    (h : s.server.errors sequence = raw?) {later : List (Action Script)}
    (hleaves : ∀ a ∈ later, a.Leaves (.error sequence)) :
    (s.run later).Checks sequence raw? := by
  intro cookie hopen hsequence hchecked
  have hkept : (s.run later).server.errors sequence = s.server.errors sequence :=
    agrees_run hleaves s
  rw [check_result hopen hchecked, hsequence, hkept, h]

theorem replies_after_reply (hopen : s.connection.isConnected = true) {cookie : Cookie}
    (hreplied : cookie.request.isVoid = false) {α : Type} (type : ObjectType α) :
    ((Action.reply cookie type).after s).server.replies cookie.sequence = none := by
  have hpiece : (Action.reply cookie type : Action Script).piece? =
      some (.reply cookie.sequence) := by
    simp [Action.piece?, hreplied]
  rw [(Action.Collects.reply cookie type).after_eq hopen, hpiece]
  exact if_pos rfl

theorem errors_after_check (hopen : s.connection.isConnected = true) {cookie : Cookie}
    (hchecked : (cookie.request.isVoid && cookie.request.isChecked) = true) :
    ((Action.check cookie).after s).server.errors cookie.sequence = none := by
  have hpiece : (Action.check cookie : Action Script).piece? = some (.error cookie.sequence) := by
    simp only [Action.piece?, hchecked, if_true]
  rw [(Action.Collects.check cookie).after_eq hopen, hpiece]
  exact if_pos rfl

/-- A reply and the error that a check gives are two pieces. -/
theorem piece?_reply_ne {c d : Cookie} {α : Type} (type : ObjectType α) {p : Piece}
    (hcheck : (Action.check d : Action Script).piece? = some p) :
    (Action.reply c type : Action Script).piece? ≠ some p := by
  simp only [Action.piece?] at hcheck ⊢
  split at hcheck <;> cases hcheck
  split <;> simp

/-- Cookies are told by their numbers alone. -/
structure Correlates (s : Session Script) (cookies : List Cookie) : Prop where
  /-- No two cookies have the same number. -/
  numbers : (cookies.map Cookie.sequence).Nodup
  /-- The order in which cookies are resolved makes no difference. -/
  any_order {calls calls' : List (Action Script)} :
    Reordering cookies calls calls' → s.SameOutcome calls calls'
  /-- Resolving a cookie does not change what one of another number comes to. -/
  others {a b : Action Script} {c d : Cookie} : a.resolved? = some c → b.resolved? = some d →
    c.sequence ≠ d.sequence → (b.perform (a.after s)).result = (b.perform s).result
  /-- Waiting for a reply does not change what a check gives, nor a check what a reply gives. -/
  paths (c d : Cookie) {α : Type} (type : ObjectType α) :
    (check d (reply c type s).state).result = (check d s).result ∧
      (reply c type (check d s).state).result = (reply c type s).result
  /-- What is scripted concerns only those that collect a piece that is written. -/
  scripted {sequence : UInt32} {outcome : ReplyOutcome} {a : Action Script} : a.Collects →
    (∀ p, a.piece? = some p → p ∉ Piece.ofOutcome sequence outcome) →
    (a.perform { s with server := s.server.scriptOutcome sequence outcome }).result =
      (a.perform s).result
  /-- A reply is the outcome that was scripted last. -/
  reply_latest (sequence : UInt32) (outcome : ReplyOutcome) {later : List (Action Script)} :
    (∀ a ∈ later, a.Leaves (.reply sequence)) →
    (s.run (.server (Script.scriptOutcome sequence outcome) :: later)).Replies sequence
      (some outcome)
  /-- A check gives the error that was scripted last. -/
  check_latest (sequence : UInt32) (raw : Buffer) {later : List (Action Script)} :
    (∀ a ∈ later, a.Leaves (.error sequence)) →
    (s.run (.server (Script.scriptError sequence raw) :: later)).Checks sequence (some raw)
  /-- After a reply there is none, until one is scripted. -/
  reply_once {cookie : Cookie} {α : Type} (type : ObjectType α) {later : List (Action Script)} :
    cookie.request.isVoid = false → (∀ a ∈ later, a.Leaves (.reply cookie.sequence)) →
    (s.run (.reply cookie type :: later)).Replies cookie.sequence none
  /-- After a check there is no error, until one is scripted. -/
  check_once {cookie : Cookie} {later : List (Action Script)} :
    (cookie.request.isVoid && cookie.request.isChecked) = true →
    (∀ a ∈ later, a.Leaves (.error cookie.sequence)) →
    (s.run (.check cookie :: later)).Checks cookie.sequence none

/-- The cookies of an open connection are told by their numbers alone, as long as the numbers of its
requests did not wrap. -/
theorem cookies_correlate {start : Session Script} {before : List (Action Script)}
    (hserver : ∀ a ∈ before, a.NumbersRequests)
    (hfew : (start.run before).server.sent.length < start.server.sent.length + 2 ^ 32)
    (hopen : (start.run before).connection.isConnected = true) :
    (start.run before).Correlates (start.issued before) where
  numbers := nodup_issued hserver hfew
  any_order h := sameOutcome_of_reordering h (nodup_issued hserver hfew) hopen
  others {a b c d} hc hd hne := by
    refine Action.result_after_of_apart hopen (.of_resolved? hc) hd fun c' hc' d' hd' => ?_
    cases hc.symm.trans hc'
    cases hd.symm.trans hd'
    exact hne
  paths c d {α} type :=
    ⟨(Action.Collects.reply c type).result_after (.check d) hopen fun p => piece?_reply_ne type,
      (Action.Collects.check d).result_after (.reply c type) hopen fun p hreply hcheck =>
        piece?_reply_ne type hcheck hreply⟩
  scripted hcollects hpieces :=
    hcollects.result_congr hopen rfl fun p hp => Script.agrees_scriptOutcome (hpieces p hp) _
  reply_latest sequence outcome later hleaves := by
    rw [run_cons]
    exact replies_run (Script.replies_scriptOutcome sequence outcome _) hleaves
  check_latest sequence raw later hleaves := by
    rw [run_cons]
    exact checks_run (Script.errors_scriptError sequence raw _) hleaves
  reply_once {cookie α} type later hreplied hleaves := by
    rw [run_cons]
    exact replies_run (replies_after_reply hopen hreplied type) hleaves
  check_once {cookie later} hchecked hleaves := by
    rw [run_cons]
    exact checks_run (errors_after_check hopen hchecked) hleaves

/-- A client that sent two requests waits for the reply to the first, takes an event and checks the
second, in one order or another. It gets the reply that was scripted last, and gets it once. -/
theorem cookies_correlate_of_two :
    let first : Cookie := ⟨1, .reply⟩
    let second : Cookie := ⟨2, .checkedVoid⟩
    let raw : Buffer := ⟨List.replicate 32 0, by decide⟩
    let start : Session Script := ⟨.empty, ⟨true, 0, .empty⟩, .empty⟩
    let before : List (Action Script) :=
      [.send .reply .empty, .send .checkedVoid .empty, .server (Script.scriptReply 1 .empty),
        .server (Script.scriptReply 1 raw), .server (Script.scriptError 2 raw),
        .server (Script.queueEvent raw)]
    let calls : List (Action Script) := [.reply first .bytes, .nextEvent?, .check second]
    let calls' : List (Action Script) := [.check second, .reply first .bytes, .nextEvent?]
    let s := start.run before
    start.issued before = [first, second] ∧ s.SameOutcome calls calls' ∧
      (reply first .bytes (s.run [.check second])).result = .ok (View.root raw) ∧
      (s.run [.reply first .bytes, .check second]).Replies 1 none := by
  intro first second raw start before calls calls' s
  have hserver : ∀ a ∈ before, a.NumbersRequests := by
    simp only [before, List.forall_mem_cons]
    refine ⟨trivial, trivial, ?_, ?_, ?_, ?_, nofun⟩ <;>
      exact Action.numbersRequests_of_keeps fun _ => ⟨rfl, rfl⟩
  have hissued : start.issued before = [first, second] := rfl
  have horder : Reordering (start.issued before) calls calls' := {
    collects := by
      simp only [calls, List.forall_mem_cons]
      exact ⟨.reply first .bytes, .nextEvent?, .check second, nofun⟩
    issued := by
      rw [hissued]
      simp only [calls, List.forall_mem_cons]
      refine ⟨fun cookie h => ?_, nofun, fun cookie h => ?_, nofun⟩ <;> cases h <;> simp
    once := by decide
    perm := List.perm_append_singleton (Action.check second) [.reply first .bytes, .nextEvent?]
    events_eq := rfl }
  have hleaves : ∀ a ∈ [(.check second : Action Script)], a.Leaves (.reply 1) :=
    List.forall_mem_singleton.mpr (by decide : (Action.check second).piece? ≠ some (.reply 1))
  have hcorrelates : s.Correlates (start.issued before) :=
    cookies_correlate hserver (by decide) rfl
  exact ⟨hissued, hcorrelates.any_order horder, rfl, hcorrelates.reply_once .bytes rfl hleaves⟩

end Session

end DisplayClient
