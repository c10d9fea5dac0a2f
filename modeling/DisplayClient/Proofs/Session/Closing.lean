import DisplayClient.Proofs.Session.Collecting

/-!
# Closed for good

A connection is as open as it was after everything but closing it
(`Action.isConnected_after`), so that no run opens a closed one again. On a
closed connection every call of the client is refused and changes nothing
(`Action.refusal?`, `Action.perform_of_closed`); closing it once more does
nothing, either. A script counts how often it was let go: along a run, once
for a connection that is closed and not at all for one that is open
(`Session.LetGo`). Both together make `Session.closed_for_good`.
-/

namespace DisplayClient

namespace Action

variable {σ : Type}

/-- What the client is told for a call on a closed connection. Cookies are looked at before the
connection is; closing it again is no fault, and what others do is none of the client's calls. -/
def refusal? : Action σ → Option Fault
  | .reply cookie _ => some (if cookie.request.isVoid then .noReply else .disconnected)
  | .check cookie =>
    some (if cookie.request.isVoid && cookie.request.isChecked then .disconnected
      else .notCheckable)
  | .disconnect | .register _ | .server _ => none
  | _ => some .disconnected

end Action

namespace Session

variable {σ α : Type} [Transport σ] {s : Session σ}

theorem reply_of_closed (hclosed : s.connection.isConnected = false) {cookie : Cookie}
    (h : cookie.request.isVoid = false) (type : ObjectType α) :
    reply cookie type s = ⟨.error .disconnected, s, []⟩ := by
  rw [reply, h]
  exact onServer_bind_of_closed hclosed _ _

theorem check_of_closed (hclosed : s.connection.isConnected = false) {cookie : Cookie}
    (h : (cookie.request.isVoid && cookie.request.isChecked) = true) :
    check cookie s = ⟨.error .disconnected, s, []⟩ := by
  rw [check, h]
  exact onServer_bind_of_closed hclosed _ _

theorem coreModule_of_closed (hclosed : s.connection.isConnected = false) (type : TypeTag) :
    coreModule type s = ⟨.error .disconnected, s, []⟩ :=
  Step.bind_of_error (extension_of_closed hclosed .core)

theorem disconnect_of_closed (hclosed : s.connection.isConnected = false) :
    disconnect s = ⟨.ok (), s, []⟩ := by
  rw [disconnect, Step.read_bind, hclosed]
  rfl

theorem disconnect_of_open (hopen : s.connection.isConnected = true) :
    disconnect s =
      ⟨.ok (), { s with
        connection := { s.connection with isConnected := false }
        server := Transport.disconnect s.server }, [.disconnected]⟩ := by
  rw [disconnect, Step.read_bind, hopen]
  rfl

theorem isConnected_disconnect (s : Session σ) :
    (disconnect s).state.connection.isConnected = false := by
  cases hopen : s.connection.isConnected with
  | false => rw [disconnect_of_closed hopen, hopen]
  | true => rw [disconnect_of_open hopen]

end Session

namespace Action

variable {σ : Type} [Transport σ] {a : Action σ} {s : Session σ}

/-- A call on a closed connection is refused and changes nothing. -/
theorem perform_of_closed (hclosed : s.connection.isConnected = false) {fault : Fault}
    (h : a.refusal? = some fault) : a.perform s = ⟨.error fault, s, []⟩ := by
  cases a with
  | disconnect | register | server => cases h
  | extension key =>
    cases h
    exact Session.extension_of_closed hclosed key
  | core =>
    cases h
    exact Session.extension_of_closed hclosed .core
  | coreModule type =>
    cases h
    exact Session.coreModule_of_closed hclosed type
  | nextEvent | nextEvent? | send =>
    cases h
    exact Session.onServer_bind_of_closed hclosed _ _
  | flush | requestLimit | prefetchRequestLimit | freshId | setup =>
    cases h
    exact Session.onServer_of_closed hclosed _
  | reply cookie type =>
    simp only [refusal?, Option.some.injEq] at h
    subst h
    cases hvoid : cookie.request.isVoid with
    | true => exact Session.reply_of_void hvoid type s
    | false => exact Session.reply_of_closed hclosed hvoid type
  | check cookie =>
    simp only [refusal?, Option.some.injEq] at h
    subst h
    cases hchecked : cookie.request.isVoid && cookie.request.isChecked with
    | true => exact Session.check_of_closed hclosed hchecked
    | false => exact Session.check_of_not_checkable hchecked s

/-- A connection is as open as it was after everything but closing it. -/
theorem isConnected_after (h : a ≠ .disconnect) (s : Session σ) :
    (a.after s).connection.isConnected = s.connection.isConnected := by
  cases hasks : a.asks? with
  | some key =>
    rw [after_of_asks hasks]
    exact Session.isConnected_extension key s
  | none =>
    by_cases hregister : ∃ call, a = .register call
    · obtain ⟨call, rfl⟩ := hregister
      rfl
    · obtain ⟨server, hafter⟩ :=
        sameClient_after hasks h (fun call hcall => hregister ⟨call, hcall⟩) s
      rw [hafter]

theorem closed_after (hclosed : s.connection.isConnected = false) :
    (a.after s).connection.isConnected = false := by
  by_cases h : a = .disconnect
  · subst h
    exact Session.isConnected_disconnect s
  · rw [isConnected_after h, hclosed]

end Action

namespace Session

variable {σ : Type} [Transport σ]

/-- No run opens a connection again. -/
theorem closed_run {s : Session σ} (hclosed : s.connection.isConnected = false)
    (actions : List (Action σ)) : (s.run actions).connection.isConnected = false :=
  run_keeps (P := fun s => s.connection.isConnected = false)
    (fun _ _ hs => Action.closed_after hs) hclosed actions

theorem run_append (s : Session σ) (actions later : List (Action σ)) :
    s.run (actions ++ later) = (s.run actions).run later := List.foldl_append

/-- Whatever comes after it, a connection that was closed is closed. -/
theorem closed_of_disconnect (s : Session σ) (before after : List (Action σ)) :
    (s.run (before ++ .disconnect :: after)).connection.isConnected = false := by
  rw [run_append, run_cons]
  exact closed_run (isConnected_disconnect (s.run before)) after

end Session

/-! ## How often a transport is let go -/

theorem Script.disconnects_without (s : Script) (p? : Option Piece) :
    (s.without p?).disconnects = s.disconnects := by
  cases p? with
  | none => rfl
  | some p => cases p <;> rfl

namespace Action

/-- If others do something to the server, they do not let go of the transport. -/
def KeepsDisconnects : Action Script → Prop
  | .server change => ∀ script, (change script).disconnects = script.disconnects
  | _ => True

variable {a : Action Script}

theorem disconnects_call (hkeeps : a.KeepsDisconnects) (h : a ≠ .disconnect) (script : Script) :
    (a.call script).disconnects = script.disconnects := by
  have hcollected (hcollects : a.Collects) : (a.call script).disconnects = script.disconnects := by
    rw [hcollects.call_eq, Script.disconnects_without]
  cases a with
  | disconnect => exact absurd rfl h
  | server change => exact hkeeps script
  | nextEvent => exact hcollected .nextEvent
  | nextEvent? => exact hcollected .nextEvent?
  | reply cookie type => exact hcollected (.reply cookie type)
  | check cookie => exact hcollected (.check cookie)
  | _ => rfl

theorem disconnects_after (hkeeps : a.KeepsDisconnects) (h : a ≠ .disconnect)
    (s : Session Script) : (a.after s).server.disconnects = s.server.disconnects := by
  rcases a.server_after s with hsame | hcalled
  · rw [hsame]
  · rw [hcalled, disconnects_call hkeeps h]

end Action

namespace Session

/-- The transport was let go `count` times, and once more by the connection, if that is closed. -/
def LetGo (s : Session Script) (count : Nat) : Prop :=
  s.server.disconnects = count + if s.connection.isConnected then 0 else 1

theorem LetGo.after {s : Session Script} {count : Nat} (h : s.LetGo count) {a : Action Script}
    (hkeeps : a.KeepsDisconnects) : (a.after s).LetGo count := by
  by_cases hdisconnect : a = .disconnect
  · subst hdisconnect
    show (disconnect s).state.LetGo count
    cases hopen : s.connection.isConnected with
    | false => rwa [disconnect_of_closed hopen]
    | true =>
      rw [disconnect_of_open hopen]
      simp only [LetGo, hopen, if_true] at h
      show s.server.disconnects + 1 = count + 1
      rw [h, Nat.add_zero]
  · rw [LetGo, Action.disconnects_after hkeeps hdisconnect, Action.isConnected_after hdisconnect]
    exact h

theorem LetGo.run {s : Session Script} {count : Nat} (h : s.LetGo count)
    {actions : List (Action Script)} (hkeeps : ∀ a ∈ actions, a.KeepsDisconnects) :
    (s.run actions).LetGo count := by
  induction actions generalizing s with
  | nil => exact h
  | cons a actions ih =>
    obtain ⟨ha, hrest⟩ := List.forall_mem_cons.mp hkeeps
    exact ih (h.after ha) hrest

/-- A connection that was closed, by whatever run, is closed; every call of the client on it is
refused, and a misused cookie as it is on an open one, and changes nothing, nor does closing it
again or letting go of it. Over the life of a connection, from its opening to letting go of it, the
transport is let go once, and no later than by the first that closes the connection. -/
theorem closed_for_good {opening : Opening Script} {server : Script} {opened : Session Script}
    (hopening : opening.Opens server opened) :
    (∀ before after : List (Action Script),
      let s := opened.run (before ++ .disconnect :: after)
      s.connection.isConnected = false ∧
      (∀ (a : Action Script) fault, a.refusal? = some fault → a.perform s = ⟨.error fault, s, []⟩) ∧
      disconnect s = ⟨.ok (), s, []⟩ ∧ drop s = ⟨.ok (), s, []⟩) ∧
    ∀ actions : List (Action Script), (∀ a ∈ actions, a.KeepsDisconnects) →
      let s := opened.run actions
      s.server.disconnects =
        opened.server.disconnects + (if s.connection.isConnected then 0 else 1) ∧
      (drop s).state.server.disconnects = opened.server.disconnects + 1 := by
  refine ⟨fun before after => ?_, fun actions hkeeps => ?_⟩
  · intro s
    have hclosed : s.connection.isConnected = false := closed_of_disconnect opened before after
    exact ⟨hclosed, fun a fault h => Action.perform_of_closed hclosed h,
      disconnect_of_closed hclosed, disconnect_of_closed hclosed⟩
  · intro s
    have hstart : opened.LetGo opened.server.disconnects := by
      rw [LetGo, hopening.connection_eq.1]
      rfl
    have hrun : s.LetGo opened.server.disconnects := hstart.run hkeeps
    have hdropped : (drop s).state.LetGo opened.server.disconnects :=
      hrun.after (a := .disconnect) trivial
    refine ⟨hrun, ?_⟩
    rw [hdropped, show (drop s).state.connection.isConnected = false from isConnected_disconnect s]
    rfl

/-- A client closes its connection with an extension known, a request unanswered and an event
waiting. -/
theorem closed_for_good_of_busy :
    let key : ExtensionKey := .named "RANDR"
    let registry := Registry.empty.insert key ⟨.named "ExtA", [⟨0, .named "ScreenChange"⟩], []⟩
    let server := (Script.empty.scriptPresence "RANDR" ⟨true, 140, 89, 147⟩).queueEvent .empty
    let opened : Session Script := ⟨registry, ⟨true, 0, .empty⟩, server⟩
    let cookie : Cookie := ⟨1, .reply⟩
    let before : List (Action Script) := [.extension key, .send .reply .empty]
    let s := opened.run (before ++ .disconnect :: [.disconnect])
    s.connection.resolver.known.length = 1 ∧ s.server.events = [.empty] ∧
      extension key s = ⟨.error .disconnected, s, []⟩ ∧
      reply cookie .bytes s = ⟨.error .disconnected, s, []⟩ ∧
      check cookie s = ⟨.error .notCheckable, s, []⟩ ∧
      nextEvent? s = ⟨.error .disconnected, s, []⟩ ∧ (drop s).state.server.disconnects = 1 := by
  intro key registry server opened cookie before s
  have hopening : (Opening.wrap 0).Opens server opened := ⟨_, rfl⟩
  obtain ⟨hclosed, hcount⟩ := closed_for_good hopening
  obtain ⟨-, hrefused, -, -⟩ := hclosed before [.disconnect]
  have hkeeps : ∀ a ∈ before ++ .disconnect :: [.disconnect], a.KeepsDisconnects := by
    simp only [before, List.cons_append, List.nil_append, List.forall_mem_cons]
    exact ⟨trivial, trivial, trivial, trivial, List.forall_mem_nil _⟩
  exact ⟨rfl, rfl, hrefused (.extension key) _ rfl, hrefused (.reply cookie .bytes) _ rfl,
    hrefused (.check cookie) _ rfl, hrefused .nextEvent? _ rfl, (hcount _ hkeeps).2⟩

end Session

end DisplayClient
