import DisplayClient.Transport.Basic

/-!
# Scripted servers

A script plays a server: it holds what the server will send, and records what
the client did. Events come out in the order in which they were scripted; what
a request comes to is scripted by the request's number, and comes out once.
An error scripted for a request is seen both by waiting for its reply and by
checking it.
-/

namespace DisplayClient

/-- A request that a script received. -/
structure SentRequest where
  sequence : UInt32
  /-- How it is to be answered. -/
  request : Request
  data : Buffer
  deriving DecidableEq

/-- A scripted server. -/
structure Script where
  /-- The events and errors that were not read yet. -/
  events : List Buffer
  /-- What requests come to, by number. -/
  replies : UInt32 → Option ReplyOutcome
  /-- The errors of void requests, by number. -/
  errors : UInt32 → Option Buffer
  /-- The answers about extensions, by name. -/
  presence : String → Presence
  /-- How often each extension was asked for, by name. -/
  queries : String → Nat
  /-- The requests received, in order. -/
  sent : List SentRequest
  nextSequence : UInt32
  nextId : UInt32
  /-- The longest request taken, in four-byte units. -/
  requestLimit : UInt32
  /-- Whether the longest request was asked for ahead of time. -/
  prefetched : Bool
  flushes : Nat
  disconnects : Nat
  refusing : Bool
  setup : Buffer

namespace Script

/-- The script in which nothing happens. -/
def empty : Script where
  events := []
  replies _ := none
  errors _ := none
  presence _ := .absent
  queries _ := 0
  sent := []
  nextSequence := 1
  nextId := 0x00400000
  requestLimit := 65535
  prefetched := false
  flushes := 0
  disconnects := 0
  refusing := false
  setup := .empty

instance : Inhabited Script := ⟨empty⟩

/-- The function that is `f` everywhere but at `a`, where it is `b`. -/
def update {α β : Type} [DecidableEq α] (f : α → β) (a : α) (b : β) : α → β :=
  fun x => if x = a then b else f x

/-! ## Writing the script -/

/-- Adds an event, or an error. -/
def queueEvent (raw : Buffer) (s : Script) : Script := { s with events := s.events ++ [raw] }

def scriptReply (sequence : UInt32) (raw : Buffer) (s : Script) : Script :=
  { s with replies := update s.replies sequence (some (.reply raw)) }

def scriptError (sequence : UInt32) (raw : Buffer) (s : Script) : Script :=
  { s with
    replies := update s.replies sequence (some (.error raw))
    errors := update s.errors sequence (some raw) }

/-- Sets the answer about an extension. -/
def scriptPresence (name : String) (presence : Presence) (s : Script) : Script :=
  { s with presence := update s.presence name presence }

def scriptRequestLimit (length : UInt32) (s : Script) : Script :=
  { s with requestLimit := length }

def scriptSetup (raw : Buffer) (s : Script) : Script := { s with setup := raw }

def refuse (s : Script) : Script := { s with refusing := true }

/-! ## Serving a client -/

/-- Connects a client, which starts on the screen that the name asks for. -/
def connect (target : DisplayName) : IoCall Script UInt64 := fun s =>
  (if s.refusing then .error (.refused target) else .ok target.screen, s)

/-- Takes the next event off the script. -/
def nextEvent? : IoCall Script (Option Buffer) := fun s =>
  (.ok s.events.head?, { s with events := s.events.tail })

/-- Takes the next event off the script; it is a fault if there is none. -/
def nextEvent : IoCall Script Buffer := fun s =>
  match s.events with
  | [] => (.error (.unscripted .event), s)
  | raw :: events => (.ok raw, { s with events := events })

/-- Answers about an extension, and counts the question. -/
def presenceOf (key : ExtensionKey) : IoCall Script Presence := fun s =>
  let name := key.name?.getD ""
  (.ok (s.presence name), { s with queries := update s.queries name (s.queries name + 1) })

/-- Records a request and numbers it. -/
def send (request : Request) (data : Buffer) : IoCall Script UInt32 := fun s =>
  (.ok s.nextSequence,
    { s with
      sent := s.sent ++ [⟨s.nextSequence, request, data⟩], nextSequence := s.nextSequence + 1 })

/-- Hands out what a request came to; it is a fault if nothing is scripted. -/
def awaitReply (sequence : UInt32) : IoCall Script ReplyOutcome := fun s =>
  match s.replies sequence with
  | none => (.error (.unscripted .reply), s)
  | some outcome => (.ok outcome, { s with replies := update s.replies sequence none })

/-- Hands out the error of a void request. -/
def awaitError (sequence : UInt32) : IoCall Script (Option Buffer) := fun s =>
  (.ok (s.errors sequence), { s with errors := update s.errors sequence none })

def freshId : IoCall Script UInt32 := fun s =>
  (.ok s.nextId, { s with nextId := s.nextId + 1 })

instance : Transport Script where
  disconnect s := { s with disconnects := s.disconnects + 1 }
  flush s := (.ok (), { s with flushes := s.flushes + 1 })
  requestLimit s := s.requestLimit
  prefetchRequestLimit s := { s with prefetched := true }
  nextEvent := nextEvent
  nextEvent? := nextEvent?
  presenceOf := presenceOf
  send := send
  awaitReply := awaitReply
  awaitError := awaitError
  freshId := freshId
  setup s := s.setup

end Script

end DisplayClient
