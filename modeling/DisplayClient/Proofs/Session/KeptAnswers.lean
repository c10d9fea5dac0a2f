import DisplayClient.Proofs.Extension.Numbering
import DisplayClient.Proofs.Session.Answer
import DisplayClient.Transport.Script

/-!
# Answers are kept for good

A connection that answered a question for an extension, be it with the
extension or with its absence, gives that answer from then on, whatever is
registered, resolved or sent in between, and whatever the server has come to
say; it does not ask again. What it says of the core, asked by its key or by
name, is settled when the connection is opened (`answers_kept`).
-/

namespace DisplayClient

namespace Registry

theorem numbered_initial (registry : Registry) : (Resolver.initial registry).known.Numbered := by
  rw [Resolver.initial]
  cases registry.find? .core with
  | none => exact ⟨rfl, fun hcore => by cases hcore⟩
  | some core => exact ⟨rfl, fun hcore => by cases hcore; rfl⟩

end Registry

namespace Session

variable {σ : Type} [Transport σ]

/-- From here on, for as long as the connection is open, `ask` gives `result` and changes nothing,
nor would it with any other server. -/
def AlwaysGives (s : Session σ) (ask : Transport σ → Step (Session σ) Extension)
    (result : Except Fault Extension) : Prop :=
  ∀ actions : List (Action σ),
    let later := s.run actions
    later.connection.isConnected = true →
      ∀ other : Transport σ, ask other later = ⟨result, later, []⟩

/-- From here on, for as long as the connection is open, the question for `key` is answered with
`result` and changes nothing, nor would it with any other server. -/
def Settles (s : Session σ) (key : ExtensionKey) (result : Except Fault Extension) : Prop :=
  s.AlwaysGives (fun other => @extension σ other key) result

theorem settles_of_settled? {s : Session σ} {key : ExtensionKey} {result : Except Fault Extension}
    (h : s.connection.resolver.known.settled? key = some result) : s.Settles key result := by
  intro actions later hopen
  have hlater : later.connection.resolver.known.settled? key = some result :=
    settled?_run h actions
  intro other
  exact extension_of_settled hopen hlater

/-- Asking for the core is the question for its key. -/
theorem alwaysGives_core {s : Session σ} {result : Except Fault Extension}
    (h : s.Settles .core result) : s.AlwaysGives (fun other => @core σ other) result := by
  intro actions later hopen other
  show @extension σ other .core later = ⟨result, later, []⟩
  exact h actions hopen other

theorem numbered_run {s : Session σ} (h : s.connection.resolver.known.Numbered)
    (actions : List (Action σ)) : (s.run actions).connection.resolver.known.Numbered :=
  run_keeps_resolver (P := fun resolver => resolver.known.Numbered)
    (fun hends hresolver => hends.numbered hresolver) h actions

/-- Whenever two questions are answered with extensions, these are the same instance exactly if the
questions are for the same key. -/
theorem serial_eq_iff {s : Session σ} (hnumbered : s.connection.resolver.known.Numbered)
    {key key' : ExtensionKey} {e e' : Extension} (h : (extension key s).result = .ok e)
    (actions : List (Action σ))
    (h' : (extension key' ((extension key s).state.run actions)).result = .ok e') :
    e.serial = e'.serial ↔ key = key' := by
  let later : Session σ := (extension key s).state.run actions
  let last : Session σ := (extension key' later).state
  have hlast : last.connection.resolver.known.Numbered :=
    numbered_run (numbered_run (numbered_run hnumbered [.extension key]) actions) [.extension key']
  have hkept : last.connection.resolver.known.settled? key = some (.ok e) :=
    settled?_run (settled?_run (settled?_extension h (.inl ⟨e, rfl⟩)) actions) [.extension key']
  exact hlast.serial_eq_iff hkept (settled?_extension h' (.inl ⟨e', rfl⟩))

/-- On a connection, an extension that was given for a key answers every later question for the
key, as the same instance and without the server, and no other question; an absence that was
reported is reported from then on; and the core is what it was when the connection was opened,
whether it is asked for by its key or by name. -/
theorem answers_kept {opening : Opening σ} {server : σ} {opened : Session σ}
    (hopening : opening.Opens server opened) :
    opened.Settles .core opened.registry.coreAnswer ∧
    opened.AlwaysGives (fun other => @core σ other) opened.registry.coreAnswer ∧
    ∀ (before : List (Action σ)) (key : ExtensionKey),
      let s := opened.run before
      let asked := (extension key s).state
      (∀ e, (extension key s).result = .ok e → asked.Settles key (.ok e) ∧
        ∀ actions key' e', (extension key' (asked.run actions)).result = .ok e' →
          (e.serial = e'.serial ↔ key = key')) ∧
      ((extension key s).result = .error (.absentExtension key) →
        asked.Settles key (.error (.absentExtension key))) := by
  have hresolver := hopening.connection_eq.2
  have hcore : opened.Settles .core opened.registry.coreAnswer := by
    apply settles_of_settled?
    rw [hresolver, Registry.settled?_initial, if_pos rfl]
  have hnumbered : opened.connection.resolver.known.Numbered := by
    rw [hresolver]
    exact opened.registry.numbered_initial
  refine ⟨hcore, alwaysGives_core hcore, fun before key => ?_⟩
  intro s asked
  refine ⟨fun e he => ⟨settles_of_settled? (settled?_extension he (.inl ⟨e, rfl⟩)), ?_⟩,
    fun habsent => settles_of_settled? (settled?_extension habsent (.inr rfl))⟩
  exact fun actions key' e' he' => serial_eq_iff (numbered_run hnumbered before) he actions he'

/-- The server loses an extension, and another module is registered for it and another for the core;
the answers stay. -/
theorem answers_kept_of_lost :
    let key : ExtensionKey := .named "RANDR"
    let server := Script.empty.scriptPresence "RANDR" ⟨true, 140, 89, 147⟩
    let registry := (Registry.empty.insert .core
      ⟨.named "CoreA", [⟨2, .named "KeyPress"⟩], []⟩).insert
      key ⟨.named "ExtA", [⟨0, .named "ScreenChange"⟩], []⟩
    let opened : Session Script := ⟨registry, ⟨true, 0, .initial registry⟩, server⟩
    let asked := (extension key opened).state
    let changes : List (Action Script) := [.server (Script.scriptPresence "RANDR" .absent),
      .register (.extension key (.named "ExtB") [] []), .register (.core (.named "CoreB") [] [])]
    let later := asked.run changes
    let answer : Except Fault Extension := .ok ⟨1, key, 140, 89, 147, ⟨.named "ExtA", key⟩⟩
    let coreAnswer : Except Fault Extension := .ok ⟨0, .core, 0, 0, 0, ⟨.named "CoreA", .core⟩⟩
    (extension key opened).result = answer ∧ extension key later = ⟨answer, later, []⟩ ∧
      core opened = ⟨coreAnswer, opened, []⟩ ∧ core later = ⟨coreAnswer, later, []⟩ := by
  intro key server registry opened asked changes later answer coreAnswer
  have hopening : (Opening.wrap 0).Opens server opened := ⟨_, rfl⟩
  have hanswer : (extension key opened).result = answer := rfl
  obtain ⟨-, hcore, hkept⟩ := answers_kept hopening
  have hsettled := ((hkept [] key).1 _ hanswer).1
  exact ⟨hanswer, hsettled changes rfl _, hcore [] rfl _, hcore (.extension key :: changes) rfl _⟩

end Session

end DisplayClient
