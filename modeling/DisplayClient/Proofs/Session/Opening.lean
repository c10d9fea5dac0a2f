import DisplayClient.Proofs.Extension.Resolution
import DisplayClient.Session.Basic

/-!
# Opening a connection

A client comes to a connection by an `Opening`: over a transport that is
there, or by the name of a display. Taking up the core never stands in the
way, because any core fits (`Resolver.takeCore_empty`): what keeps a client
from a connection is only that there is no display to connect to, or no
reaching it (`Opening.perform_cases`).
-/

namespace DisplayClient

/-- How a client comes to a connection. -/
inductive Opening (σ : Type) where
  /-- Over a transport that is there. -/
  | wrap (screen : UInt64)
  /-- To a display, by `reach`, which gives the screen to start on. -/
  | connect (reach : DisplayName → IoCall σ UInt64) (name environment : Option String)

namespace Resolver

/-- What a connection knows when it is opened. -/
def initial (registry : Registry) : Resolver :=
  match registry.find? .core with
  | none => empty
  | some core =>
    ⟨KnownExtensions.empty.setCore (core.build 0 .core .absent),
      OpcodeTables.empty.place 0 core.events 0 core.errors⟩

theorem takeCore_empty (registry : Registry) :
    ∃ lines, takeCore registry empty =
      ⟨.ok (initial registry).known.core, initial registry, lines⟩ := by
  rw [initial]
  cases hcore : registry.find? .core with
  | none => exact ⟨[], takeCore_of_unregistered rfl hcore⟩
  | some core => exact takeCore_of_registered (rfl : empty.known.core = none) hcore

end Resolver

namespace Registry

/-- What a connection that is opened over a registry says of the core. -/
def coreAnswer (registry : Registry) : Except Fault Extension :=
  match registry.find? .core with
  | some core => .ok (core.build 0 .core .absent)
  | none => .error .noCore

/-- Only the question for the core is settled when a connection is opened. -/
theorem settled?_initial (registry : Registry) (key : ExtensionKey) :
    (Resolver.initial registry).known.settled? key =
      if key = .core then some registry.coreAnswer else none := by
  rw [Resolver.initial, coreAnswer]
  cases registry.find? .core <;> rfl

end Registry

namespace Opening

variable {σ : Type}

/-- Opens a connection. -/
def perform (registry : Registry) : Opening σ → Step σ Connection
  | .wrap screen => Connection.start registry screen
  | .connect reach name environment => Connection.connect registry reach name environment

/-- What keeps a client from a connection: there is no display to connect to, or no reaching it. -/
def Unreached (server : σ) (fault : Fault) : Opening σ → Prop
  | .wrap _ => False
  | .connect reach name environment =>
    DisplayName.resolve name environment = .error fault ∨
    ∃ target cause, DisplayName.resolve name environment = .ok target ∧
      (reach target server).1 = .error cause ∧ fault = .unreachable target cause

/-- Opening a connection over a transport always succeeds, and leaves the transport alone. -/
theorem start_eq (registry : Registry) (screen : UInt64) (server : σ) :
    ∃ lines, Connection.start registry screen server =
      ⟨.ok ⟨true, screen, Resolver.initial registry⟩, server, lines⟩ := by
  obtain ⟨lines, hcore⟩ := Resolver.takeCore_empty registry
  have hown : (Step.onOwn Resolver.empty (Resolver.takeCore registry) : Step σ _) server =
      ⟨.ok ((Resolver.initial registry).known.core, Resolver.initial registry), server, lines⟩ := by
    rw [Step.onOwn, hcore]
    rfl
  rw [Connection.start, Step.bind_of_ok hown]
  simp only
  split
  · exact ⟨lines ++ [.coreMissing, .connected screen], rfl⟩
  · exact ⟨lines ++ [.connected screen], rfl⟩

/-- A client comes to a connection with what the registered core says, unless the server is out of
reach. -/
theorem perform_cases (registry : Registry) (opening : Opening σ) (server : σ) :
    (∃ fault server' lines, opening.perform registry server = ⟨.error fault, server', lines⟩ ∧
      opening.Unreached server fault) ∨
    ∃ screen server' lines, opening.perform registry server =
      ⟨.ok ⟨true, screen, Resolver.initial registry⟩, server', lines⟩ := by
  cases opening with
  | wrap screen =>
    obtain ⟨lines, hstart⟩ := start_eq registry screen server
    exact .inr ⟨screen, server, lines, hstart⟩
  | connect reach name environment =>
    rw [perform, Connection.connect]
    cases htarget : DisplayName.resolve name environment with
    | error fault =>
      rw [Step.liftM_error_bind rfl]
      exact .inl ⟨fault, server, [], rfl, .inl htarget⟩
    | ok target =>
      rw [Step.liftM_ok_bind rfl, Step.log_bind]
      cases hreach : reach target server with
      | mk answer server' =>
        cases answer with
        | error cause =>
          have hcall : Step.call (.unreachable target) (reach target) server =
              ⟨.error (.unreachable target cause), server', []⟩ := by
            rw [Step.call_apply, hreach]
            rfl
          rw [Step.bind_of_error hcall]
          exact .inl ⟨_, server', _, rfl,
            .inr ⟨target, cause, htarget, congrArg Prod.fst hreach, rfl⟩⟩
        | ok screen =>
          have hcall : Step.call (.unreachable target) (reach target) server =
              ⟨.ok screen, server', []⟩ := by
            rw [Step.call_apply, hreach]
            rfl
          obtain ⟨lines, hstart⟩ := start_eq registry screen server'
          rw [Step.bind_of_ok hcall, hstart]
          exact .inr ⟨screen, server', _, rfl⟩

/-- The session in which a client has just come to its connection, of a server that was `server`
before. -/
def Opens (opening : Opening σ) (server : σ) (opened : Session σ) : Prop :=
  ∃ lines, opening.perform opened.registry server =
    ⟨.ok opened.connection, opened.server, lines⟩

/-- A connection that was just opened is open, and knows what the registered core says. -/
theorem Opens.connection_eq {opening : Opening σ} {server : σ} {opened : Session σ}
    (h : opening.Opens server opened) : opened.connection.isConnected = true ∧
      opened.connection.resolver = Resolver.initial opened.registry := by
  obtain ⟨lines, hperform⟩ := h
  rcases opening.perform_cases opened.registry server with ⟨fault, _, _, hfailed, -⟩ |
    ⟨screen, _, _, hopened⟩
  · rw [hfailed] at hperform
    cases hperform
  · rw [hopened] at hperform
    injection hperform with hresult
    injection hresult with hconnection
    rw [← hconnection]
    exact ⟨rfl, rfl⟩

end Opening

end DisplayClient
