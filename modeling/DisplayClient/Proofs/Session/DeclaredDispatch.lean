import DisplayClient.Proofs.Session.Answer
import DisplayClient.Proofs.Session.Dispatch
import DisplayClient.Transport.Script

/-!
# Declared events and errors are dispatched

Once an extension is resolved, a buffer of an event that its module declares
comes to the client as an event of the declared type, and a buffer of an
error that it declares is raised as an error of the declared type
(`declared_dispatch`). Events are looked up without the synthetic bit, so the
events that a server puts at 128 or above are registered, but what comes at
their opcodes is taken for the event 128 below.
-/

namespace DisplayClient

theorem Event.is_of_registered {e : Event} {type : TypeTag} (h : e.registered = some type) :
    e.is type = true := by
  simp [Event.is, Event.type, h]

theorem ServerError.is_of_registered {e : ServerError} {type : TypeTag}
    (h : e.registered = some type) : e.is type = true := by
  simp [ServerError.is, ServerError.type, h]

namespace Session

open Declaration (Consistent)

variable {σ : Type} [Transport σ]

namespace Resolves

variable {s : Session σ} {key : ExtensionKey} {registration : Registration} {e : Extension}
  {d : Declaration} {response : Response}

/-- What is declared for the opcode of a response is its type as an event. -/
theorem eventOf_registered (h : s.Resolves key registration e)
    (hconsistent : Consistent registration.events) (hd : d ∈ registration.events)
    (hslot : e.firstEvent.toNat + d.number.toNat = response.kind.toNat % 128) :
    ((extension key s).state.eventOf response).registered = some d.type := by
  have hopcode : e.firstEvent.toNat + d.number.toNat = (Event.opcode ⟨response, none⟩).toNat :=
    hslot.trans (Event.opcode_toNat ⟨response, none⟩).symm
  simp only [eventOf, h.resolver_eq, OpcodeTables.place]
  rw [OpcodeTable.get?_placeAll h.events_fit, OpcodeTable.lastAt?_of_mem hconsistent hd hopcode,
    Option.some_or]

/-- What is declared for the code of a response is its type as an error. -/
theorem errorOf_registered (h : s.Resolves key registration e)
    (hconsistent : Consistent registration.errors) (hd : d ∈ registration.errors)
    (hslot : e.firstError.toNat + d.number.toNat = response.detail.toNat) :
    ((extension key s).state.errorOf response).registered = some d.type := by
  simp only [errorOf, h.resolver_eq, OpcodeTables.place]
  rw [OpcodeTable.get?_placeAll h.errors_fit, OpcodeTable.lastAt?_of_mem hconsistent hd hslot,
    Option.some_or]

end Resolves

/-- Right after a question resolved an extension, a buffer whose kind is an event that the extension
declares, below 128 and with or without the synthetic bit, comes to the client as that event, one
whose kind is an event that it declares at 128 or above comes as whatever is 128 below, and an error
buffer whose code the extension declares is raised as that error. -/
theorem declared_dispatch {s : Session σ} (hs : s.Reachable) {key : ExtensionKey} {e : Extension}
    (hkey : key ≠ .core) (hnew : s.connection.resolver.known.find? key = none)
    (hresult : (extension key s).result = .ok e) :
    ∃ registration, s.registry.find? key = some registration ∧
      ∀ (raw : Buffer) (h : responseHeaderSize ≤ raw.length),
        let resolved := (extension key s).state
        let response : Response := ⟨View.root raw, h⟩
        (∀ d ∈ registration.events,
          let opcode := e.firstEvent.toNat + d.number.toNat
          response.kind ≠ errorKind →
          (opcode < 128 → response.kind.toNat = opcode ∨ response.kind.toNat = opcode + 128 →
            ∃ event, resolved.Gives raw event ∧ event.response = response ∧
              event.is d.type = true) ∧
          (128 ≤ opcode → response.kind.toNat = opcode →
            ∃ event, resolved.Gives raw event ∧ event.response = response ∧ event.registered =
              resolved.connection.resolver.tables.events.get? (UInt8.ofNat (opcode - 128)))) ∧
        (∀ d ∈ registration.errors,
          response.kind = errorKind →
          response.detail.toNat = e.firstError.toNat + d.number.toNat →
            ∃ error, resolved.Raises raw error ∧ error.response = response ∧
              error.is d.type = true) := by
  rcases s.resolves_or_keeps key with ⟨registration, e', hresolves⟩ | hkeeps
  · rw [hresolves.result_eq] at hresult
    cases hresult
    obtain ⟨hevents, herrors⟩ := hs.consistent.of_find? hresolves.registered
    refine ⟨registration, hresolves.registered, fun raw h => ?_⟩
    intro resolved response
    have hopen : resolved.connection.isConnected = true :=
      (isConnected_extension key s).trans hresolves.isConnected
    refine ⟨fun d hd => ?_, fun d hd hkind hcode => ?_⟩
    · intro opcode hkind
      have hopcode : opcode = e.firstEvent.toNat + d.number.toNat := rfl
      have hgives := gives_of_event hopen h hkind
      refine ⟨fun hlow hbyte => ⟨_, hgives, rfl, Event.is_of_registered ?_⟩,
        fun hhigh hbyte => ⟨_, hgives, rfl, ?_⟩⟩
      · have hslot : e.firstEvent.toNat + d.number.toNat = response.kind.toNat % 128 := by omega
        exact hresolves.eventOf_registered hevents hd hslot
      · have hslot : Event.opcode ⟨response, none⟩ = UInt8.ofNat (opcode - 128) := by
          have hmask := Event.opcode_toNat ⟨response, none⟩
          have hlt := response.kind.toNat_lt
          rw [← UInt8.toNat_inj, hmask, UInt8.toNat_ofNat']
          show response.kind.toNat % 128 = _
          omega
        rw [eventOf, hslot]
    · exact ⟨_, raises_of_error hopen h hkind, rfl,
        ServerError.is_of_registered (hresolves.errorOf_registered herrors hd hcode.symm)⟩
  · have hkept := KnownExtensions.find?_of_settled? hkey (hkeeps.settled_of_ok hresult)
    rw [hnew] at hkept
    cases hkept

/-- An event and an error of an extension that a server puts at 89 and 147. -/
theorem declared_dispatch_of_low :
    let key : ExtensionKey := .named "RANDR"
    let registry := Registry.empty.after [.extension key (.named "ExtA")
      [⟨1, .named "ScreenChange"⟩] [⟨0, .named "BadOutput"⟩]]
    let server := Script.empty.scriptPresence "RANDR" ⟨true, 140, 89, 147⟩
    let opened : Session Script := ⟨registry, ⟨true, 0, .empty⟩, server⟩
    let resolved := (extension key opened).state
    let event : Buffer := ⟨[90, 0, 0, 0], by decide⟩
    let error : Buffer := ⟨[0, 147, 0, 0], by decide⟩
    (∃ e, resolved.Gives event e ∧ e.is (.named "ScreenChange") = true) ∧
      ∃ e, resolved.Raises error e ∧ e.is (.named "BadOutput") = true := by
  intro key registry server opened resolved event error
  have hreachable : opened.Reachable := ⟨_, .wrap 0, server, opened, [], rfl, ⟨_, rfl⟩, rfl⟩
  obtain ⟨registration, hregistered, hdispatch⟩ := declared_dispatch hreachable
    (show key ≠ .core by decide) rfl
    (show (extension key opened).result =
      .ok ⟨0, key, 140, 89, 147, ⟨.named "ExtA", key⟩⟩ from rfl)
  cases hregistered
  obtain ⟨hevents, -⟩ := hdispatch event (by decide)
  obtain ⟨-, herrors⟩ := hdispatch error (by decide)
  obtain ⟨e, hgives, -, he⟩ :=
    (hevents _ List.mem_cons_self (by decide)).1 (by decide) (.inl (by decide))
  obtain ⟨e', hraises, -, he'⟩ := herrors _ List.mem_cons_self (by decide) (by decide)
  exact ⟨⟨e, hgives, he⟩, ⟨e', hraises, he'⟩⟩

/-- A server puts an extension's only event at 200, and what comes with that kind is not of the
declared type. -/
theorem not_dispatched_of_high :
    let key : ExtensionKey := .named "RANDR"
    let registry := Registry.empty.after [.extension key (.named "ExtA")
      [⟨0, .named "ScreenChange"⟩] []]
    let raw : Buffer := ⟨[200, 0, 0, 0], by decide⟩
    let server := (Script.empty.scriptPresence "RANDR" ⟨true, 140, 200, 147⟩).queueEvent raw
    let opened : Session Script := ⟨registry, ⟨true, 0, .empty⟩, server⟩
    let resolved := (extension key opened).state
    (extension key opened).result = .ok ⟨0, key, 140, 200, 147, ⟨.named "ExtA", key⟩⟩ ∧
      ∃ event, (nextEvent resolved).result = .ok event ∧ event.kind = 200 ∧
        event.is (.named "ScreenChange") = false :=
  ⟨rfl, _, rfl, rfl, rfl⟩

end Session

end DisplayClient
