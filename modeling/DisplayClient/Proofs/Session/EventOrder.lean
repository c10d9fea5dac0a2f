import DisplayClient.Proofs.Session.Closing

/-!
# Events come in order

A server pushes buffers while its clients go on with what they do: a `Turn` is
one or the other. What a turn takes off the queue is a `Delivery`, which holds
the tables of the connection at that moment (`Session.delivery?_of_takes`). A turn
leaves the queue with what it pushes at the end and without what it delivers
at the front (`Session.events_turn`), and so, by induction, does a run: the
buffers that were delivered and those that still wait are those that were
pushed, in order (`Session.events_in_order`).
-/

namespace DisplayClient

/-- The server pushes a buffer, or anybody does anything else. -/
inductive Turn where
  | push (raw : Buffer)
  | act (a : Action Script)

namespace Turn

/-- What a turn is to the session. -/
def action : Turn → Action Script
  | push raw => .server (Script.queueEvent raw)
  | act a => a

def pushed : Turn → List Buffer
  | push raw => [raw]
  | act _ => []

/-- Whatever else is done to the server leaves the queue alone. -/
def KeepsQueue : Turn → Prop
  | act (.server change) => ∀ script, (change script).events = script.events
  | _ => True

end Turn

/-- A buffer that was taken off the queue. -/
structure Delivery where
  raw : Buffer
  /-- The tables of the connection when the buffer was taken. -/
  tables : OpcodeTables
  /-- What the client got of it, or of looking for it. -/
  result : Except Fault (Option Event)

/-- What a client got that waited for an event or looked for one. -/
def Action.received? {σ : Type} : (a : Action σ) → Except Fault a.Value →
    Option (Except Fault (Option Event))
  | .nextEvent, result => some (result.map some)
  | .nextEvent?, result => some result
  | _, _ => none

theorem Action.takesEvent_of_piece? {a : Action Script} (h : a.piece? = some .event) :
    a.takesEvent = true := by
  cases a with
  | nextEvent | nextEvent? => rfl
  | reply | check =>
    simp only [piece?] at h
    split at h <;> cases h
  | _ => cases h

theorem Action.leaves_event {a : Action Script} (hkeeps : (Turn.act a).KeepsQueue)
    (h : a.takesEvent = false) : a.Leaves .event := by
  have hpiece : a.piece? ≠ some .event := by
    intro hevent
    rw [takesEvent_of_piece? hevent] at h
    cases h
  cases a with
  | server change => exact hkeeps
  | _ => exact hpiece

/-- The action takes the buffer off the head of the queue, which comes to the client by the tables
of that moment. -/
structure Delivery.TakenBy (d : Delivery) (s : Session Script)
    (a : Action Script) : Prop where
  events_eq : s.server.events = d.raw :: (a.after s).server.events
  tables_eq : d.tables = s.connection.resolver.tables
  received : a.received? (a.perform s).result = some d.result
  delivers : ∃ delivered, Delivers d.tables d.raw delivered ∧ d.result = delivered.map some

namespace Session

/-- There is a buffer, and the action takes it. -/
def Takes (s : Session Script) (a : Action Script) : Prop :=
  a.takesEvent = true ∧ s.connection.isConnected = true ∧ s.server.events ≠ []

/-- What an action takes off the queue. -/
def delivery? (s : Session Script) (a : Action Script) : Option Delivery :=
  match s.connection.isConnected, s.server.events, a.received? (a.perform s).result with
  | true, raw :: _, some result => some ⟨raw, s.connection.resolver.tables, result⟩
  | _, _, _ => none

/-- What is taken off the queue in some turns, in order. -/
def deliveries (s : Session Script) : List Turn → List Delivery
  | [] => []
  | turn :: turns => (s.delivery? turn.action).toList ++ (turn.action.after s).deliveries turns

variable {s : Session Script} {a : Action Script}

theorem delivery?_of_takes (h : s.Takes a) : ∃ d, s.delivery? a = some d ∧ d.TakenBy s a := by
  obtain ⟨htakes, hopen, hqueue⟩ := h
  obtain ⟨raw, rest, hevents⟩ := List.exists_cons_of_ne_nil hqueue
  have hreceived : a.received? (a.perform s).result = some ((classify raw s).result.map some) := by
    cases a with
    | nextEvent =>
      show some ((nextEvent s).result.map some) = _
      rw [(nextEvent_of_cons hopen hevents).1]
    | nextEvent? =>
      show some (nextEvent? s).result = _
      rw [(nextEvent?_of_cons hopen hevents).1]
    | _ => cases htakes
  have hafter : (a.after s).server.events = rest := by
    rw [(Action.Collects.of_takesEvent htakes).after_eq hopen, Action.piece?_of_takesEvent htakes]
    exact congrArg List.tail hevents
  refine ⟨⟨raw, s.connection.resolver.tables, (classify raw s).result.map some⟩, ?_, ?_⟩
  · rw [delivery?, hopen, hevents, hreceived]
  · exact ⟨by rw [hevents, hafter], rfl, hreceived, _, classify_delivers raw s, rfl⟩

theorem delivery?_of_not_takes (h : ¬ s.Takes a) : s.delivery? a = none := by
  rw [delivery?]
  split
  next raw rest result hopen hevents hreceived =>
    refine absurd ⟨?_, hopen, ?_⟩ h
    · cases a with
      | nextEvent | nextEvent? => rfl
      | _ => cases hreceived
    · rw [hevents]
      exact List.cons_ne_nil raw rest
  next => rfl

/-- Nothing but a buffer that is there and is taken leaves the queue. -/
theorem events_of_not_takes (hkeeps : (Turn.act a).KeepsQueue) (h : ¬ s.Takes a) :
    (a.after s).server.events = s.server.events := by
  cases htakes : a.takesEvent with
  | false => exact Action.agrees_after (Action.leaves_event hkeeps htakes) s
  | true =>
    cases hopen : s.connection.isConnected with
    | false =>
      have hrefused : a.refusal? = some .disconnected := by
        cases a with
        | nextEvent | nextEvent? => rfl
        | _ => cases htakes
      rw [← Action.state_perform, Action.perform_of_closed hopen hrefused]
    | true =>
      have hempty : s.server.events = [] := by
        by_contra hqueue
        exact h ⟨htakes, hopen, hqueue⟩
      have hafter := (Action.Collects.of_takesEvent htakes).after_eq hopen
      rw [hafter, Action.piece?_of_takesEvent htakes]
      show s.server.events.tail = s.server.events
      rw [hempty]
      rfl

/-- A turn adds what it pushes at the end of the queue, and takes what it delivers off the front. -/
theorem events_turn {turn : Turn} (hkeeps : turn.KeepsQueue) (s : Session Script) :
    s.server.events ++ turn.pushed =
      (s.delivery? turn.action).toList.map Delivery.raw ++
        (turn.action.after s).server.events := by
  cases turn with
  | push raw =>
    have hnone : s.delivery? (Turn.push raw).action = none :=
      delivery?_of_not_takes fun h => Bool.false_ne_true h.1
    rw [hnone]
    rfl
  | act a =>
    by_cases h : s.Takes a
    · obtain ⟨d, hdelivery, htaken⟩ := delivery?_of_takes h
      show s.server.events ++ [] = _
      rw [List.append_nil, htaken.events_eq, Turn.action, hdelivery]
      rfl
    · show s.server.events ++ [] = _
      rw [List.append_nil, Turn.action, delivery?_of_not_takes h, events_of_not_takes hkeeps h]
      rfl

theorem events_run {turns : List Turn} (hkeeps : ∀ turn ∈ turns, turn.KeepsQueue)
    (s : Session Script) :
    s.server.events ++ turns.flatMap Turn.pushed =
      (s.deliveries turns).map Delivery.raw ++
        (s.run (turns.map Turn.action)).server.events := by
  induction turns generalizing s with
  | nil => exact List.append_nil _
  | cons turn turns ih =>
    obtain ⟨hturn, hrest⟩ := List.forall_mem_cons.mp hkeeps
    calc s.server.events ++ (turn :: turns).flatMap Turn.pushed
      _ = s.server.events ++ turn.pushed ++ turns.flatMap Turn.pushed := by
        rw [List.flatMap_cons, List.append_assoc]
      _ = (s.delivery? turn.action).toList.map Delivery.raw ++
            ((turn.action.after s).server.events ++ turns.flatMap Turn.pushed) := by
        rw [events_turn hturn, List.append_assoc]
      _ = (s.delivery? turn.action).toList.map Delivery.raw ++
            (((turn.action.after s).deliveries turns).map Delivery.raw ++
              ((turn.action.after s).run (turns.map Turn.action)).server.events) := by
        rw [ih hrest]
      _ = _ := by
        rw [deliveries, List.map_append, List.append_assoc]
        rfl

/-- Every delivery is taken by one of the turns. -/
theorem taken_of_mem_deliveries {turns : List Turn} {d : Delivery} (h : d ∈ s.deliveries turns) :
    ∃ before turn after, turns = before ++ turn :: after ∧
      d.TakenBy (s.run (before.map Turn.action)) turn.action := by
  induction turns generalizing s with
  | nil => cases h
  | cons turn turns ih =>
    rw [deliveries, List.mem_append, Option.mem_toList] at h
    rcases h with hfirst | hlater
    · refine ⟨[], turn, turns, rfl, ?_⟩
      have htakes : s.Takes turn.action := by
        by_contra hnot
        rw [delivery?_of_not_takes hnot] at hfirst
        cases hfirst
      obtain ⟨d', hd', htaken⟩ := delivery?_of_takes htakes
      cases hfirst.symm.trans hd'
      exact htaken
    · obtain ⟨before, turn', after, rfl, htaken⟩ := ih hlater
      exact ⟨turn :: before, turn', after, rfl, htaken⟩

/-- Whatever turns a server and its clients take, the buffers that were delivered and those that
still wait are those that were there or were pushed, in order. Each that is delivered comes to the
client by the tables of its connection at that moment. A turn takes one buffer if it waits for an
event, or looks for one, on an open connection while there is a buffer; any other takes none. -/
theorem events_in_order {turns : List Turn} (hkeeps : ∀ turn ∈ turns, turn.KeepsQueue)
    (s : Session Script) :
    s.server.events ++ turns.flatMap Turn.pushed =
      (s.deliveries turns).map Delivery.raw ++
        (s.run (turns.map Turn.action)).server.events ∧
    (∀ d ∈ s.deliveries turns, ∃ before turn after, turns = before ++ turn :: after ∧
      d.TakenBy (s.run (before.map Turn.action)) turn.action) ∧
    ∀ before turn after, turns = before ++ turn :: after →
      let now := s.run (before.map Turn.action)
      (now.Takes turn.action → ∃ d, now.delivery? turn.action = some d ∧
        d.TakenBy now turn.action) ∧
      (¬ now.Takes turn.action → now.delivery? turn.action = none ∧
        (turn.action.after now).server.events = now.server.events ++ turn.pushed) := by
  refine ⟨events_run hkeeps s, fun d => taken_of_mem_deliveries, fun before turn after hturns => ?_⟩
  intro now
  refine ⟨delivery?_of_takes, fun hnot => ?_⟩
  have hturn : turn.KeepsQueue := hkeeps turn (by rw [hturns]; simp)
  have hqueue := events_turn hturn now
  rw [delivery?_of_not_takes hnot] at hqueue ⊢
  exact ⟨rfl, hqueue.symm⟩

/-- An event is pushed before its extension is resolved and delivered after that, and a buffer
without a header comes after it; one more waits when the connection is closed. -/
theorem events_in_order_of_four :
    let key : ExtensionKey := .named "RANDR"
    let change : TypeTag := .named "ScreenChange"
    let registry := Registry.empty.insert key ⟨.named "ExtA", [⟨0, change⟩], []⟩
    let server := Script.empty.scriptPresence "RANDR" ⟨true, 140, 89, 147⟩
    let s : Session Script := ⟨registry, ⟨true, 0, .empty⟩, server⟩
    let event : Buffer := ⟨[89, 0, 1, 0], by decide⟩
    let turns : List Turn :=
      [.push event, .act (.extension key), .push .empty, .act .nextEvent, .push event,
        .act .nextEvent?, .act .disconnect, .act .nextEvent]
    let left := (s.run (turns.map Turn.action)).server.events
    [event, .empty, event] = (s.deliveries turns).map Delivery.raw ++ left ∧ left = [event] ∧
      (s.deliveries turns).map (·.tables.events.get? 89) = [some change, some change] ∧
      s.connection.resolver.tables.events.get? 89 = none := by
  intro key change registry server s event turns left
  have hkeeps : ∀ turn ∈ turns, turn.KeepsQueue := by
    simp only [turns, List.forall_mem_cons]
    exact ⟨trivial, trivial, trivial, trivial, trivial, trivial, trivial, trivial,
      List.forall_mem_nil _⟩
  exact ⟨(events_in_order hkeeps s).1, rfl, by decide +kernel, by decide⟩

end Session

end DisplayClient
