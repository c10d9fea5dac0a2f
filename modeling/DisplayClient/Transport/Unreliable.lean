import DisplayClient.Transport.Script

/-!
# Unreliable transports

A transport can be made to fail: the next calls of a kind then fail before
they reach it, as many as were asked for.
-/

namespace DisplayClient

/-- A transport, and the failures that are due. -/
structure Unreliable (σ : Type) where
  inner : σ
  /-- How many of the next calls of each kind fail. -/
  due : TransportCall → Nat

namespace Unreliable

variable {σ α : Type}

def reliable (inner : σ) : Unreliable σ := ⟨inner, fun _ => 0⟩

/-- Has the next `times` calls of a kind fail. -/
def failNext (call : TransportCall) (times : Nat) (u : Unreliable σ) : Unreliable σ :=
  { u with due := fun c => if c = call then times else u.due c }

/-- Makes a call, unless a failure of its kind is due. -/
def attempt (call : TransportCall) (f : IoCall σ α) : IoCall (Unreliable σ) α := fun u =>
  match u.due call with
  | 0 =>
    let answer := f u.inner
    (answer.1, { u with inner := answer.2 })
  | times + 1 => (.error (.injected call), u.failNext call times)

/-- Connects to a script; the client starts on `screen`, if one is given. -/
def connect (screen : Option UInt64) (target : DisplayName) : IoCall (Unreliable Script) UInt64 :=
  attempt .connect fun s =>
    let answer := Script.connect target s
    (answer.1.map screen.getD, answer.2)

instance [Transport σ] : Transport (Unreliable σ) where
  disconnect u := { u with inner := Transport.disconnect u.inner }
  flush := attempt .flush Transport.flush
  requestLimit u := Transport.requestLimit u.inner
  prefetchRequestLimit u :=
    { u with inner := Transport.prefetchRequestLimit u.inner }
  nextEvent := attempt .wait Transport.nextEvent
  nextEvent? := attempt .poll Transport.nextEvent?
  presenceOf key := attempt .query (Transport.presenceOf key)
  send request data := attempt .send (Transport.send request data)
  awaitReply sequence := attempt .reply (Transport.awaitReply sequence)
  awaitError sequence := attempt .check (Transport.awaitError sequence)
  freshId := attempt .id Transport.freshId
  setup u := Transport.setup u.inner

end Unreliable

end DisplayClient
