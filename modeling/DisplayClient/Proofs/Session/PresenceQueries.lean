import DisplayClient.Proofs.Session.Answer
import DisplayClient.Transport.Script

/-!
# How often the server is asked

A script counts the questions for each extension. Of the questions that a
client asks on one connection, at most one for each key reaches the server,
save for extensions whose declarations do not fit the opcodes that the server
gives them: nothing is kept of those, so every question for them does
(`queriesFor`, `queries_run`).

* `queries_of_ends`: a question that reaches the server is one less that will
  (`pending`).
-/

namespace DisplayClient

open Resolver (Room)

/-- The server has a registered extension, but at opcodes that its declarations do not fit. -/
def Crowded (registry : Registry) (presence : String → Presence) (name : String) : Prop :=
  ∃ registration, registry.find? (.named name) = some registration ∧
    (presence name).present = true ∧ ¬ Room registration (presence name)

/-- How many of the first `times` questions for an extension reach the server. -/
def queriesFor (registry : Registry) (presence : String → Presence) (name : String)
    (times : Nat) : Nat :=
  match registry.find? (.named name) with
  | none => 0
  | some registration =>
    if (presence name).present = true ∧ ¬ Room registration (presence name) then times
    else min times 1

/-- How many of the next `times` questions for an extension will reach the server. -/
def pending (registry : Registry) (presence : String → Presence) (known : KnownExtensions)
    (name : String) (times : Nat) : Nat :=
  if known.settled? (.named name) = none then queriesFor registry presence name times else 0

section Counting

variable {registry : Registry} {presence : String → Presence} {name : String}
  {registration : Registration} {known : KnownExtensions}

theorem crowded_iff (h : registry.find? (.named name) = some registration) :
    Crowded registry presence name ↔
      (presence name).present = true ∧ ¬ Room registration (presence name) := by
  constructor
  · rintro ⟨registration', h', hcrowded⟩
    rw [h] at h'
    cases h'
    exact hcrowded
  · exact fun hcrowded => ⟨registration, h, hcrowded⟩

theorem queriesFor_of_unknown (h : registry.find? (.named name) = none) (times : Nat) :
    queriesFor registry presence name times = 0 := by
  rw [queriesFor, h]

theorem queriesFor_of_crowded (h : Crowded registry presence name) (times : Nat) :
    queriesFor registry presence name times = times := by
  obtain ⟨registration, hregistered, hcrowded⟩ := h
  simp only [queriesFor, hregistered]
  exact if_pos hcrowded

theorem queriesFor_of_not_crowded (hregistered : registry.find? (.named name) = some registration)
    (h : ¬ Crowded registry presence name) (times : Nat) :
    queriesFor registry presence name times = min times 1 := by
  simp only [queriesFor, hregistered]
  exact if_neg fun hcrowded => h ((crowded_iff hregistered).mpr hcrowded)

theorem queriesFor_le_one_iff (times : Nat) :
    queriesFor registry presence name times ≤ 1 ↔ (Crowded registry presence name → times ≤ 1) := by
  by_cases hcrowded : Crowded registry presence name
  · rw [queriesFor_of_crowded hcrowded]
    exact ⟨fun h _ => h, fun h => h hcrowded⟩
  · refine ⟨fun _ h => absurd h hcrowded, fun _ => ?_⟩
    cases hregistered : registry.find? (.named name) with
    | none =>
      rw [queriesFor_of_unknown hregistered]
      omega
    | some registration =>
      rw [queriesFor_of_not_crowded hregistered hcrowded]
      omega

theorem pending_zero : pending registry presence known name 0 = 0 := by
  unfold pending queriesFor
  split
  · split
    · rfl
    · split <;> rfl
  · rfl

theorem pending_of_settled {result : Except Fault Extension}
    (h : known.settled? (.named name) = some result) (times : Nat) :
    pending registry presence known name times = 0 := by
  rw [pending, h]
  rfl

theorem pending_of_unsettled (h : known.settled? (.named name) = none) (times : Nat) :
    pending registry presence known name times = queriesFor registry presence name times := if_pos h

end Counting

namespace Session

/-- A script answers every question, and counts it. -/
theorem query_named {name : String} {server server' : Script} {result : Except Fault Presence}
    {lines : List LogLine} (h : query (.named name) server = ⟨result, server', lines⟩) :
    result = .ok (server.presence name) ∧ server' =
      { server with queries := Script.update server.queries name (server.queries name + 1) } := by
  cases h
  exact ⟨rfl, rfl⟩

variable {registry : Registry} {key : ExtensionKey} {resolver : Resolver} {server : Script}
  {outcome : Outcome (Resolver × Script) Extension}

/-- A question leaves what the script says alone, and the counts of the other extensions. -/
theorem script_of_ends (h : Resolver.Ends registry key query resolver server outcome) :
    outcome.state.2.presence = server.presence ∧
      ∀ name, key ≠ .named name → outcome.state.2.queries name = server.queries name := by
  cases h with
  | settled | unknown => exact ⟨rfl, fun _ _ => rfl⟩
  | unanswered _ _ _ _ hasks hquery | absent _ _ _ _ _ hasks hquery
  | crowded _ _ _ _ _ _ _ hasks hquery | resolved _ _ _ _ _ hasks hquery =>
    cases key with
    | core => exact absurd rfl hasks.key_ne
    | named asked =>
      obtain ⟨-, rfl⟩ := query_named hquery
      refine ⟨rfl, fun name hname => if_neg fun heq => hname ?_⟩
      rw [heq]

/-- A question that reaches the server is one less that will. -/
theorem queries_of_ends {name : String}
    (h : Resolver.Ends registry (.named name) query resolver server outcome) (times : Nat) :
    outcome.state.2.queries name +
        pending registry server.presence outcome.state.1.known name times =
      server.queries name + pending registry server.presence resolver.known name (times + 1) := by
  have hcounted (n : Nat) : Script.update server.queries name n name = n := if_pos rfl
  cases h with
  | settled result hsettled =>
    rw [pending_of_settled hsettled, pending_of_settled hsettled]
  | unknown hunsettled hregistry =>
    rw [pending_of_unsettled hunsettled, pending_of_unsettled hunsettled,
      queriesFor_of_unknown hregistry, queriesFor_of_unknown hregistry]
  | unanswered registration fault server' lines hasks hquery =>
    obtain ⟨hresult, -⟩ := query_named hquery
    cases hresult
  | absent registration presence server' lines lines' hasks hquery hpresent =>
    obtain ⟨hresult, rfl⟩ := query_named hquery
    cases hresult
    have hroomy : ¬ Crowded registry server.presence name := by
      rw [crowded_iff hasks.registered, hpresent]
      exact fun hcrowded => absurd hcrowded.1 (by decide)
    have hsettled := KnownExtensions.settled?_insertAbsent hasks.unsettled (.named name)
    rw [if_pos rfl] at hsettled
    simp only [pending_of_settled hsettled, pending_of_unsettled hasks.unsettled,
      queriesFor_of_not_crowded hasks.registered hroomy, hcounted]
    omega
  | crowded registration presence server' lines lines' base number hasks hquery hpresent hroom =>
    obtain ⟨hresult, rfl⟩ := query_named hquery
    cases hresult
    have hcrowded := (crowded_iff hasks.registered).mpr ⟨hpresent, hroom⟩
    simp only [pending_of_unsettled hasks.unsettled, queriesFor_of_crowded hcrowded, hcounted]
    omega
  | resolved registration presence server' lines lines' hasks hquery hpresent hroom =>
    obtain ⟨hresult, rfl⟩ := query_named hquery
    cases hresult
    have hroomy : ¬ Crowded registry server.presence name := by
      rw [crowded_iff hasks.registered]
      exact fun hcrowded => hcrowded.2 hroom
    have hsettled := Resolver.settled?_withExtension hasks (server.presence name) (.named name)
    rw [if_pos rfl] at hsettled
    simp only [pending_of_settled hsettled, pending_of_unsettled hasks.unsettled,
      queriesFor_of_not_crowded hasks.registered hroomy, hcounted]
    omega

/-- A question changes the count of its own extension only. -/
theorem queries_of_ends_of_ne {name : String} (hne : key ≠ .named name)
    (h : Resolver.Ends registry key query resolver server outcome) (times : Nat) :
    outcome.state.2.queries name +
        pending registry server.presence outcome.state.1.known name times =
      server.queries name + pending registry server.presence resolver.known name times := by
  rw [(script_of_ends h).2 name hne, pending, h.settled?_of_ne hne, ← pending]

/-- Of a run of questions on an open session, those reach the server that were pending. -/
theorem queries_of_run {s : Session Script} (hopen : s.connection.isConnected = true)
    (keys : List ExtensionKey) (name : String) :
    (s.run (keys.map .extension)).server.queries name =
      s.server.queries name + pending s.registry s.server.presence s.connection.resolver.known name
        (keys.count (.named name)) := by
  induction keys generalizing s with
  | nil =>
    rw [List.count_nil, pending_zero]
    show s.server.queries name = s.server.queries name + 0
    rw [Nat.add_zero]
  | cons key keys ih =>
    obtain ⟨outcome, hends, hextension⟩ := extension_ends hopen key
    have hafter : (Action.extension key).after s = s.withParts outcome.state.1 outcome.state.2 :=
      congrArg Outcome.state hextension
    have hrest := ih (s := s.withParts outcome.state.1 outcome.state.2) hopen
    rw [List.map_cons, run_cons, hafter, hrest]
    simp only [withParts, (script_of_ends hends).1]
    by_cases hkey : key = .named name
    · subst hkey
      rw [List.count_cons_self]
      exact queries_of_ends hends (keys.count (.named name))
    · rw [List.count_cons_of_ne hkey]
      exact queries_of_ends_of_ne hkey hends (keys.count (.named name))

/-- On a connection that was just opened, any run of questions reaches the server with at most one
question for each key, but with all of them for an extension whose declarations do not fit; it never
reaches it with a question for a key that nobody registered. So no extension is asked for twice
exactly if no extension that does not fit is. -/
theorem queries_run {opening : Opening Script} {server : Script} {opened : Session Script}
    (hopening : opening.Opens server opened) (keys : List ExtensionKey) :
    let s := opened.run (keys.map .extension)
    let registry := opened.registry
    let presence := opened.server.presence
    (∀ name, s.server.queries name = opened.server.queries name +
      queriesFor registry presence name (keys.count (.named name))) ∧
    (∀ name, registry.find? (.named name) = none →
      s.server.queries name = opened.server.queries name) ∧
    ((∀ name, s.server.queries name ≤ opened.server.queries name + 1) ↔
      ∀ name, Crowded registry presence name → keys.count (.named name) ≤ 1) := by
  intro s registry presence
  obtain ⟨hopen, hresolver⟩ := hopening.connection_eq
  have hunsettled (name : String) :
      opened.connection.resolver.known.settled? (.named name) = none := by
    rw [hresolver, Registry.settled?_initial]
    rfl
  have hqueries (name : String) : s.server.queries name = opened.server.queries name +
      queriesFor registry presence name (keys.count (.named name)) := by
    rw [← pending_of_unsettled (hunsettled name)]
    exact queries_of_run hopen keys name
  refine ⟨hqueries, fun name hunknown => ?_, forall_congr' fun name => ?_⟩
  · rw [hqueries, queriesFor_of_unknown hunknown, Nat.add_zero]
  · rw [hqueries, Nat.add_le_add_iff_left, queriesFor_le_one_iff]

/-- Two extensions, both asked for twice; the second one does not fit. -/
theorem queries_run_of_two :
    let registry := Registry.empty.after
      [.extension (.named "RANDR") (.named "ExtA") [⟨0, .named "ScreenChange"⟩] [],
        .extension (.named "DAMAGE") (.named "ExtB") [⟨10, .named "Alpha"⟩] []]
    let server := (Script.empty.scriptPresence "RANDR" ⟨true, 140, 89, 147⟩).scriptPresence
      "DAMAGE" ⟨true, 143, 250, 152⟩
    let opened : Session Script := ⟨registry, ⟨true, 0, .empty⟩, server⟩
    let keys : List ExtensionKey :=
      [.named "RANDR", .named "DAMAGE", .named "DAMAGE", .named "RANDR", .named "SYNC"]
    let queries := (opened.run (keys.map .extension)).server.queries
    queries "RANDR" = 1 ∧ queries "DAMAGE" = 2 ∧ queries "SYNC" = 0 := by
  intro registry server opened keys queries
  have hopening : (Opening.wrap 0).Opens server opened := ⟨_, rfl⟩
  have hqueries (name : String) : queries name = opened.server.queries name +
      queriesFor registry server.presence name (keys.count (.named name)) :=
    (queries_run hopening keys).1 name
  refine ⟨?_, ?_, ?_⟩ <;> rw [hqueries] <;> decide

/-- Events 0 and 10 do not both fit base 250, so the second question reaches the server, too. -/
theorem queries_of_crowded :
    let key : ExtensionKey := .named "DAMAGE"
    let registry := Registry.empty.after
      [.extension key (.named "ExtA") [⟨0, .named "Alpha"⟩, ⟨10, .named "Alpha"⟩] []]
    let server := Script.empty.scriptPresence "DAMAGE" ⟨true, 143, 250, 152⟩
    let opened : Session Script := ⟨registry, ⟨true, 0, .empty⟩, server⟩
    ((Opening.wrap 0).perform registry server).result = .ok opened.connection ∧
      (opened.run [.extension key]).server.queries "DAMAGE" = 1 ∧
      (opened.run [.extension key, .extension key]).server.queries "DAMAGE" = 2 :=
  ⟨rfl, rfl, rfl⟩

end Session

end DisplayClient
