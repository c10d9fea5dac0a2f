import DisplayClient.Proofs.Extension.Resolution
import DisplayClient.Proofs.Opcode.Replacement

/-!
# No type is replaced in silence

A connection writes its tables when it takes up the core and when it resolves an
extension, by the insertion that `coreInsertion?` or `insertion?` gives, and
tells of the types that are replaced by it (`tells_takeCore`, `tells_resolve`),
as every registration does. What a question for an extension logs besides may
come from the server's side (`consultation?`) and tells of nothing in these
tables.
-/

namespace DisplayClient

/-- Whether the line tells of a type that gave way to another. -/
def LogLine.isReplacement : LogLine → Bool
  | .slotReplaced .. => true
  | _ => false

/-- The lines that tell of types that gave way to others. -/
def replacements (lines : List LogLine) : List LogLine := lines.filter LogLine.isReplacement

theorem replacements_append (lines lines' : List LogLine) :
    replacements (lines ++ lines') = replacements lines ++ replacements lines' :=
  List.filter_append lines lines'

theorem OpcodeTable.isReplacement_of_mem_replaced {before after : OpcodeTable} {line : LogLine}
    (h : line ∈ replaced before after) : line.isReplacement = true := by
  obtain ⟨slot, old, new, -, -, -, rfl⟩ := mem_replaced_iff.mp h
  rfl

/-- An insertion logs nothing else. -/
theorem Insertion.replacements_perform (i : Insertion) (tables : OpcodeTables) :
    replacements (i.perform tables).log = (i.perform tables).log := by
  refine List.filter_eq_self.mpr fun line hline => ?_
  rw [(i.tells tables).lines_eq, List.mem_flatMap] at hline
  obtain ⟨moment, -, hline⟩ := hline
  rcases List.mem_append.mp hline with hevents | herrors
  · exact OpcodeTable.isReplacement_of_mem_replaced hevents
  · exact OpcodeTable.isReplacement_of_mem_replaced herrors

namespace Resolver

/-- The operation makes the registrations of the insertion, if there is one, in the tables, and
among the lines are those that tell of the types that gave way, in order. -/
abbrev TellsOf {α : Type} (i? : Option Insertion) (before : OpcodeTables)
    (result : Except Fault α) (after : OpcodeTables) (lines : List LogLine) : Prop :=
  Tells OpcodeTables.placeAt OpcodeTables.replaced (i?.elim [] Insertion.writes) before result
    after (replacements lines)

/-- A step that makes an insertion, and goes on without touching the tables. -/
theorem tellsOf_onTables_bind {α : Type} (i : Insertion) {next : Unit → Step Resolver α}
    (hnext : ∀ resolver, ∃ a, (next () resolver).result = .ok a ∧
      (next () resolver).state.tables = resolver.tables ∧
      replacements (next () resolver).log = []) (resolver : Resolver) :
    let outcome := (onTables i.perform >>= next) resolver
    TellsOf (some i) resolver.tables outcome.result outcome.state.tables outcome.log := by
  have htells := i.tells resolver.tables
  have hlog := i.replacements_perform resolver.tables
  cases hperform : i.perform resolver.tables with
  | mk result tables lines =>
    rw [hperform] at htells hlog
    have hfirst : onTables i.perform resolver =
        ⟨result, { resolver with tables := tables }, lines⟩ := by
      rw [onTables, Step.onPart_apply, hperform]
    cases result with
    | error fault =>
      rw [Step.bind_of_error hfirst]
      exact ⟨htells.after_eq, hlog.trans htells.lines_eq,
        fun _ => hlog.trans (htells.quiet_of_error rfl)⟩
    | ok =>
      obtain ⟨a, hok, htables, hquiet⟩ := hnext { resolver with tables := tables }
      rw [Step.bind_of_ok hfirst]
      simp only [hok, htables]
      refine .of_ok htells.after_eq ?_
      rw [replacements_append, hquiet, List.append_nil]
      exact hlog.trans htells.lines_eq

/-! ## The core -/

/-- What the core brings into the tables, unless it is taken up already. -/
def coreInsertion? (registry : Registry) (resolver : Resolver) : Option Insertion :=
  match resolver.known.core with
  | some _ => none
  | none => (registry.find? .core).map fun core => ⟨0, core.events, 0, core.errors⟩

theorem tells_takeCore (registry : Registry) (resolver : Resolver) :
    let outcome := takeCore registry resolver
    TellsOf (coreInsertion? registry resolver) resolver.tables outcome.result
      outcome.state.tables outcome.log := by
  cases hcore : resolver.known.core with
  | some core =>
    rw [takeCore_of_known hcore, coreInsertion?, hcore]
    exact .none resolver.tables _
  | none =>
    rw [takeCore, Step.read_bind, coreInsertion?, hcore]
    cases hregistry : registry.find? .core with
    | none => exact .none resolver.tables _
    | some core =>
      exact tellsOf_onTables_bind ⟨0, core.events, 0, core.errors⟩
        (fun resolver => ⟨_, rfl, rfl, rfl⟩) resolver

/-! ## Extensions -/

section Extensions

variable {σ : Type} (registry : Registry) (key : ExtensionKey)
  (query : ExtensionKey → Step σ Presence)

theorem tells_settle (registration : Registration) (presence : Presence) (resolver : Resolver) :
    let outcome := settle registration key presence resolver
    TellsOf (if presence.present then
        some ⟨presence.firstEvent, registration.events, presence.firstError, registration.errors⟩
      else none) resolver.tables outcome.result outcome.state.tables outcome.log := by
  cases hpresent : presence.present with
  | false =>
    rw [settle_of_absent key hpresent]
    exact .none resolver.tables _
  | true =>
    simp only [settle, hpresent, if_true]
    exact tellsOf_onTables_bind
      ⟨presence.firstEvent, registration.events, presence.firstError, registration.errors⟩
      (fun resolver => ⟨_, rfl, rfl, rfl⟩) resolver

/-- The module that is registered for `key` and the server's answer, if it is asked. -/
def consultation? (resolver : Resolver) (server : σ) :
    Option (Registration × Outcome σ Presence) :=
  match resolver.known.settled? key with
  | some _ => none
  | none => (registry.find? key).map fun registration => (registration, query key server)

/-- What is logged while the server answers. -/
def consultationLog (resolver : Resolver) (server : σ) : List LogLine :=
  (consultation? registry key query resolver server).elim [] fun consultation =>
    consultation.2.log

/-- What the extension brings into the tables, if the server is asked and has it. -/
def insertion? (resolver : Resolver) (server : σ) : Option Insertion :=
  (consultation? registry key query resolver server).bind fun (registration, answer) =>
    match answer.result with
    | .error _ => none
    | .ok presence =>
      if presence.present then
        some ⟨presence.firstEvent, registration.events, presence.firstError, registration.errors⟩
      else none

theorem tells_resolve (resolver : Resolver) (server : σ) :
    let outcome := resolve registry key query (resolver, server)
    ∃ lines, outcome.log = consultationLog registry key query resolver server ++ lines ∧
      TellsOf (insertion? registry key query resolver server) resolver.tables outcome.result
        outcome.state.1.tables lines := by
  rw [consultationLog, insertion?, consultation?]
  cases hsettled : resolver.known.settled? key with
  | some result =>
    rw [resolve_of_settled registry key query hsettled]
    exact ⟨[], rfl, .none resolver.tables _⟩
  | none =>
    cases hregistry : registry.find? key with
    | none =>
      rw [resolve_of_unknown registry key query hsettled hregistry]
      exact ⟨[], rfl, .none resolver.tables _⟩
    | some registration =>
      rw [resolve_of_asks registry key query ⟨hsettled, hregistry⟩]
      cases hquery : query key server with
      | mk result server' lines =>
        have hasked : ((query key).onPart (·.2) fun server (s : Resolver × σ) => (s.1, server))
            (resolver, server) = ⟨result, (resolver, server'), lines⟩ := by
          simp only [Step.onPart_apply, hquery]
        cases result with
        | error fault =>
          rw [Step.bind_of_error hasked]
          exact ⟨[], (List.append_nil lines).symm, .none resolver.tables _⟩
        | ok presence =>
          rw [Step.bind_of_ok hasked]
          exact ⟨_, rfl, tells_settle key registration presence resolver⟩

end Extensions

/-- A line tells of a slot that one type had before and another has after, and in a moment there is
one such slot at most. Whatever registers types, on whichever tables, its lines on replaced types
are those of the moments of its registrations, one after the other, and there are none if it
fails. A slot that is empty, or has the type already, gives no line, nor does what is known
already. To register a module again changes nothing, and nothing is told of it if neither list
gives a number two types. -/
theorem replacements_told :
    (∀ (slot : Nat) (new old : TypeTag), (LogLine.slotReplaced slot new old).level = .warn ∧
      (LogLine.slotReplaced slot new old).message =
        s!"Opcode {slot} re-registered: {new.name} replaces {old.name}") ∧
    (∀ (before after : OpcodeTable) (line : LogLine), line ∈ before.replaced after ↔
      ∃ (slot : Fin tableSize) (old new : TypeTag), before.slots.get slot = some old ∧
        after.slots.get slot = some new ∧ old ≠ new ∧ line = .slotReplaced slot new old) ∧
    -- A single registration, or a list of them.
    (∀ (table : OpcodeTable) (p : UInt8 × Declaration),
      (table.replaced (table.placeAt p)).length ≤ 1 ∧
      ∀ opcode : UInt8, p.1.toNat + p.2.number.toNat = opcode.toNat →
        table.get? opcode = none ∨ table.get? opcode = some p.2.type →
        (OpcodeTable.insert p.1 p.2.number p.2.type table).log = []) ∧
    (∀ (c : OpcodeTable.Call) (table : OpcodeTable),
      let outcome := c.perform table
      Tells OpcodeTable.placeAt OpcodeTable.replaced (c.made table) table outcome.result
        outcome.state outcome.log) ∧
    -- A module.
    (∀ (i : Insertion) (tables : OpcodeTables),
      let outcome := i.perform tables
      Tells OpcodeTables.placeAt OpcodeTables.replaced i.writes tables outcome.result
        outcome.state outcome.log ∧
      (outcome.result = .ok () →
        let again := i.perform outcome.state
        again.result = .ok () ∧ again.state = outcome.state ∧
          (Declaration.Consistent i.events → Declaration.Consistent i.errors →
            again.log = []))) ∧
    -- The core.
    (∀ (registry : Registry) (resolver : Resolver),
      let outcome := takeCore registry resolver
      TellsOf (coreInsertion? registry resolver) resolver.tables outcome.result
        outcome.state.tables outcome.log ∧
      (resolver.known.core.isSome = true → outcome.log = [])) ∧
    -- An extension.
    ∀ {σ : Type} (registry : Registry) (key : ExtensionKey)
      (query : ExtensionKey → Step σ Presence) (resolver : Resolver) (server : σ),
      let outcome := resolve registry key query (resolver, server)
      (∃ lines, outcome.log = consultationLog registry key query resolver server ++ lines ∧
        TellsOf (insertion? registry key query resolver server) resolver.tables outcome.result
          outcome.state.1.tables lines) ∧
      ((resolver.known.settled? key).isSome = true → outcome.log = []) := by
  refine ⟨fun slot new old => ⟨rfl, rfl⟩, fun before after line => OpcodeTable.mem_replaced_iff,
    fun table p => ⟨OpcodeTable.length_replaced_placeAt p table, fun opcode hslot hquiet => ?_⟩,
    OpcodeTable.Call.tells, fun i tables => ⟨i.tells tables, fun hok => ?_⟩,
    fun registry resolver => ⟨tells_takeCore registry resolver, fun hknown => ?_⟩,
    fun registry key query resolver server =>
      ⟨tells_resolve registry key query resolver server, fun hknown => ?_⟩⟩
  · exact OpcodeTable.log_insert_of_get? hslot hquiet
  · have hstate : i.apply (i.apply tables) = i.apply tables := i.apply_apply tables
    exact ⟨Insertion.perform_eq_ok_iff.mpr (Insertion.perform_eq_ok_iff.mp hok), hstate,
      fun hevents herrors => Insertion.log_repeated hevents herrors tables⟩
  · obtain ⟨core, hcore⟩ := Option.isSome_iff_exists.mp hknown
    rw [takeCore_of_known hcore]
  · obtain ⟨result, hsettled⟩ := Option.isSome_iff_exists.mp hknown
    rw [resolve_of_settled registry key query hsettled]

/-- A module that gives a number two types is told of each time it is registered, twice when it is
registered again; a module that does not is told of once. -/
theorem replacements_told_of_conflicting :
    let alpha : TypeTag := .named "Alpha"
    let beta : TypeTag := .named "Beta"
    let twin : TypeTag := ⟨"AlphaTwin", "Alpha"⟩
    let both : Insertion := ⟨64, [⟨0, alpha⟩, ⟨0, beta⟩], 128, []⟩
    let one : Insertion := ⟨60, [⟨4, twin⟩], 128, [⟨0, twin⟩]⟩
    let first := both.perform .empty
    let again := both.perform first.state
    let other := one.perform again.state
    first.log = [.slotReplaced 64 beta alpha] ∧
      again.log = [.slotReplaced 64 alpha beta, .slotReplaced 64 beta alpha] ∧
      again.state = first.state ∧ other.log = [.slotReplaced 64 twin beta] ∧
      (one.perform other.state).log = [] := by
  intro alpha beta twin both one first again other
  obtain ⟨-, -, -, -, hmodule, -⟩ := replacements_told
  have hfirst : first.result = .ok () := Insertion.perform_eq_ok_iff.mpr (by decide)
  have hother : other.result = .ok () := Insertion.perform_eq_ok_iff.mpr (by decide)
  obtain ⟨-, hsame, -⟩ := (hmodule both .empty).2 hfirst
  obtain ⟨-, -, hquiet⟩ := (hmodule one again.state).2 hother
  exact ⟨by decide +kernel, by decide +kernel, hsame, by decide +kernel,
    hquiet (by decide) (by decide)⟩

end Resolver

end DisplayClient
