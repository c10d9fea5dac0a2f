import DisplayClient.Extension.Module
import DisplayClient.Fault
import DisplayClient.Request

/-!
# Transports

A transport carries buffers between a client and its server. It does not look
into them. What a state must offer to serve as one is the class `Transport`;
a call gives its answer, or an I/O fault, and the state afterwards.
-/

namespace DisplayClient

/-- What a request came to: a reply or an error, as raw bytes. -/
inductive ReplyOutcome where
  | reply (raw : Buffer)
  | error (raw : Buffer)
  deriving DecidableEq

/-- A call on a state that can fail with an I/O fault. -/
abbrev IoCall (σ α : Type) : Type := σ → Except IoFault α × σ

/-- States that carry the traffic of a client. -/
class Transport (σ : Type) where
  disconnect : σ → σ
  flush : IoCall σ Unit
  /-- The longest request that the server takes, in four-byte units. -/
  requestLimit : σ → UInt32
  /-- Starts asking for the longest request. -/
  prefetchRequestLimit : σ → σ
  /-- The next event or error; waits for it. -/
  nextEvent : IoCall σ Buffer
  /-- The next event or error, if there is one. -/
  nextEvent? : IoCall σ (Option Buffer)
  /-- Asks the server for an extension. -/
  presenceOf : ExtensionKey → IoCall σ Presence
  /-- Sends a request, and gives its number. -/
  send : Request → Buffer → IoCall σ UInt32
  /-- What a request came to; waits for it. -/
  awaitReply : UInt32 → IoCall σ ReplyOutcome
  /-- The error of a void request, if it had one; waits until it is handled. -/
  awaitError : UInt32 → IoCall σ (Option Buffer)
  /-- A resource id that was not given out before. -/
  freshId : IoCall σ UInt32
  /-- What the server said of itself when the connection was made. -/
  setup : σ → Buffer

end DisplayClient
