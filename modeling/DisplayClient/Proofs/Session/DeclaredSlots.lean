import DisplayClient.Proofs.Extension.FirstConflict
import DisplayClient.Proofs.Session.Answer
import DisplayClient.Transport.Script

/-!
# From declarations to slots

A module that is registered gives no number two types, because a list that
does is refused, with its first conflict named. So when its declarations go
into the tables, none of them takes the slot of another, and right afterwards
each has the slot that its number and the base add up to
(`OpcodeTable.holds_placeAll`): those of the core when the connection is
opened (`Opening.Opens.holds`), and those of an extension when it is resolved
(`Session.Resolves.holds`). `declarations_checked` follows a declaration all
the way.
-/

namespace DisplayClient

open Declaration (Consistent)

namespace OpcodeTable

/-- Each number, added to the base, is an opcode, and the table holds its type there. -/
def Holds (table : OpcodeTable) (base : UInt8) (ds : List Declaration) : Prop :=
  ∀ d ∈ ds, ∃ opcode : UInt8, opcode.toNat = base.toNat + d.number.toNat ∧
    table.get? opcode = some d.type

theorem holds_placeAll {base : UInt8} {ds : List Declaration} (hfits : Fits base ds)
    (hds : Consistent ds) (table : OpcodeTable) : (placeAll base ds table).Holds base ds := by
  intro d hd
  have hopcode : (UInt8.ofNat (base.toNat + d.number.toNat)).toNat =
      base.toNat + d.number.toNat := UInt8.toNat_ofNat_of_lt (hfits d hd)
  refine ⟨_, hopcode, ?_⟩
  rw [get?_placeAll hfits, lastAt?_of_mem hds hd hopcode.symm, Option.some_or]

end OpcodeTable

/-- The tables hold what a module declares. -/
structure OpcodeTables.HoldModule (tables : OpcodeTables) (firstEvent firstError : UInt8)
    (registration : Registration) : Prop where
  events : tables.events.Holds firstEvent registration.events
  errors : tables.errors.Holds firstError registration.errors

/-- The core has its numbers for opcodes. -/
theorem Opening.Opens.holds {σ : Type} {opening : Opening σ} {server : σ} {opened : Session σ}
    (h : opening.Opens server opened) (hregistry : opened.registry.Consistent)
    {core : Registration} (hcore : opened.registry.find? .core = some core) :
    opened.connection.resolver.tables.HoldModule 0 0 core := by
  obtain ⟨hevents, herrors⟩ := hregistry.of_find? hcore
  rw [h.connection_eq.2, Resolver.initial, hcore]
  exact ⟨OpcodeTable.holds_placeAll (OpcodeTable.fits_zero _) hevents _,
    OpcodeTable.holds_placeAll (OpcodeTable.fits_zero _) herrors _⟩

namespace Session

variable {σ : Type} [Transport σ] {s : Session σ} {key : ExtensionKey}
  {registration : Registration} {e : Extension}

theorem Resolves.holds (h : s.Resolves key registration e) (hregistry : s.registry.Consistent) :
    (extension key s).state.connection.resolver.tables.HoldModule e.firstEvent e.firstError
      registration := by
  obtain ⟨hevents, herrors⟩ := hregistry.of_find? h.registered
  rw [h.resolver_eq]
  exact ⟨OpcodeTable.holds_placeAll h.events_fit hevents _,
    OpcodeTable.holds_placeAll h.errors_fit herrors _⟩

/-- An answer with an extension that was not kept is that of a question that resolves it. -/
theorem exists_resolves (hkey : key ≠ .core)
    (hnew : s.connection.resolver.known.find? key = none)
    (hresult : (extension key s).result = .ok e) :
    ∃ registration, s.Resolves key registration e := by
  rcases s.resolves_or_keeps key with ⟨registration, e', hresolves⟩ | hkeeps
  · rw [hresolves.result_eq] at hresult
    cases hresult
    exact ⟨registration, hresolves⟩
  · have hkept := KnownExtensions.find?_of_settled? hkey (hkeeps.settled_of_ok hresult)
    rw [hnew] at hkept
    cases hkept

/-- Declarations are accepted exactly if neither list gives a number two types, and otherwise the
first conflict is named, that of the events before that of the errors; a call that registers a
module does as the check says. So no registration that a client can come across gives a number two
types, and once its module is taken up, each of its numbers has its slot: the core's on opening, an
extension's when it is resolved. -/
theorem declarations_checked :
    (∀ key module events errors,
      ((∃ registration, Registration.checked key module events errors = .ok registration) ↔
        Consistent events ∧ Consistent errors) ∧
      ∀ fault, Registration.checked key module events errors = .error fault →
        Registration.Explains key events errors fault) ∧
    (∀ (call : Registering) (registry : Registry), ¬ call.TakesCoreKey →
      ((∃ first, (call.perform registry).result = .ok first) ↔
        Consistent call.declared.events ∧ Consistent call.declared.errors) ∧
      ∀ fault, (call.perform registry).result = .error fault →
        Registration.Explains call.key call.declared.events call.declared.errors fault) ∧
    (∀ (opening : Opening σ) (server : σ) (opened : Session σ) (calls : List Registering),
      opened.registry = Registry.empty.after calls → opening.Opens server opened →
      opened.registry.Consistent ∧ ∀ core, opened.registry.find? .core = some core →
        opened.connection.resolver.tables.HoldModule 0 0 core) ∧
    ∀ s : Session σ, s.Reachable → s.registry.Consistent ∧
      ∀ key e, key ≠ .core → s.connection.resolver.known.find? key = none →
        (extension key s).result = .ok e →
        ∃ registration, s.registry.find? key = some registration ∧
          (extension key s).state.connection.resolver.tables.HoldModule e.firstEvent e.firstError
            registration := by
  refine ⟨fun key module events errors => ⟨Registration.exists_checked_iff,
    fun fault => Registration.explains_of_checked⟩,
    fun call registry hkey => ⟨Registering.exists_perform_iff hkey,
      fun fault => Registering.explains_of_perform hkey⟩,
    fun opening server opened calls hcalls hopens => ?_, fun s hs => ⟨hs.consistent, ?_⟩⟩
  · have hregistry : opened.registry.Consistent := by
      rw [hcalls]
      exact Registry.consistent_empty.after calls
    exact ⟨hregistry, fun core => hopens.holds hregistry⟩
  · intro key e hkey hnew hresult
    obtain ⟨registration, hresolves⟩ := exists_resolves hkey hnew hresult
    exact ⟨registration, hresolves.registered, hresolves.holds hs.consistent⟩

/-- A module gives an error a second type of the same name, and is refused; without that it is
registered, and resolved next to a core. -/
theorem declarations_checked_of_twins :
    let key : ExtensionKey := .named "RANDR"
    let alpha : TypeTag := .named "Alpha"
    let twin : TypeTag := ⟨"AlphaTwin", "Alpha"⟩
    let events : List Declaration := [⟨1, alpha⟩, ⟨1, alpha⟩]
    let errors : List Declaration := [⟨5, alpha⟩, ⟨1, twin⟩, ⟨5, twin⟩]
    let refused : Registering := .extension key (.named "ExtA") events errors
    let calls : List Registering := [refused, .core (.named "CoreA") [⟨2, twin⟩] [],
      .extension key (.named "ExtA") events [⟨5, alpha⟩]]
    let registry := Registry.empty.after calls
    let server := Script.empty.scriptPresence "RANDR" ⟨true, 140, 89, 147⟩
    let opened : Session Script := ⟨registry, ⟨true, 0, .initial registry⟩, server⟩
    (∃ fault, (refused.perform .empty).result = .error fault ∧
      Registration.Explains key events errors fault ∧
      fault.message = "Invalid extension: RANDR: error 5 declared as both Alpha and Alpha") ∧
    opened.connection.resolver.tables.events.Holds 0 [⟨2, twin⟩] ∧
    (extension key opened).state.connection.resolver.tables.events.Holds 89 events := by
  intro key alpha twin events errors refused calls registry server opened
  obtain ⟨-, hperform, hopening, hreachable⟩ := @declarations_checked Script _
  have hopens : (Opening.wrap 0 : Opening Script).Opens server opened := ⟨_, rfl⟩
  have hopened : opened.Reachable := ⟨calls, .wrap 0, server, opened, [], rfl, hopens, rfl⟩
  have hrefused : ¬ refused.TakesCoreKey := show key ≠ .core by decide
  obtain ⟨-, hcore⟩ := hopening (.wrap 0) server opened calls rfl hopens
  obtain ⟨registration, hregistered, hslots⟩ := (hreachable opened hopened).2 key
    ⟨1, key, 140, 89, 147, ⟨.named "ExtA", key⟩⟩ (by decide) rfl rfl
  cases hregistered
  refine ⟨⟨_, rfl, (hperform refused .empty hrefused).2 _ rfl, ?_⟩, (hcore _ rfl).events,
    hslots.events⟩
  decide +kernel

end Session

end DisplayClient
