import DisplayClient.ObjectType.Basic

/-!
# Decoding responses

The types that any response can be decoded as, whatever is registered: plain
responses, events, server errors and replies. A classified event or error can
also be cast to the type that it was classified as, and to no other.
-/

namespace DisplayClient

/-- Takes a view for a response, if it has the common header. -/
def Response.ofView (v : View) : Except Fault Response :=
  if h : responseHeaderSize ≤ v.length then .ok ⟨v, h⟩
  else .error (v.rangeFault 0 responseHeaderSize)

/-- Decodes a response of type `actual` as a `type`; the types must be the same. -/
def Response.castFrom {α : Type} (r : Response) (actual : TypeTag) (type : ObjectType α) :
    Except Fault α :=
  if actual = type.tag then type.fromView r.view else .error (.typeMismatch type.tag actual)

/-- Decodes an event as the type that it was classified as. -/
def Event.cast {α : Type} (e : Event) (type : ObjectType α) : Except Fault α :=
  e.response.castFrom e.type type

/-- Decodes a server error as the type that it was classified as. -/
def ServerError.cast {α : Type} (e : ServerError) (type : ObjectType α) : Except Fault α :=
  e.response.castFrom e.type type

/-- A reply: a response whose header goes on to 32 bytes and tells the reply's length. -/
structure Reply where
  response : Response
  /-- How many four-byte units follow the header. -/
  length : UInt32
  deriving DecidableEq

namespace Reply

def view (r : Reply) : View := r.response.view

/-- The low half of the number of the request that is answered. -/
def sequence (r : Reply) : UInt16 := r.response.sequence

/-- Where a reply's length is. -/
abbrev lengthOffset : Nat := 4

/-- Takes a view for a reply, if it has the header. -/
def ofView (v : View) : Except Fault Reply :=
  if v.length < replyHeaderSize then .error (v.rangeFault 0 replyHeaderSize)
  else do
    let length ← v.uint32At lengthOffset
    let response ← Response.ofView v
    return ⟨response, length⟩

/-- Cuts a buffer that a reply came in down to the size that the reply declares. -/
def trim (v : View) : Except Fault View := do
  let length ← v.uint32At lengthOffset
  match (Size.mul? length.toNat 4).bind (Size.add? · replyHeaderSize) with
  | none => .error (v.rangeFault replyHeaderSize Size.max)
  | some declared => if declared = v.length then .ok v else v.cut 0 declared

end Reply

namespace ObjectType

def response : ObjectType Response where
  tag := .response
  fromView := Response.ofView
  view := Response.view

/-- Any response, taken for an event that no type is registered for. -/
def event : ObjectType Event where
  tag := .event
  fromView v := (Response.ofView v).map (⟨·, none⟩)
  view := Event.view

/-- Any response, taken for a server error that no type is registered for. -/
def error : ObjectType ServerError where
  tag := .error
  fromView v := (Response.ofView v).map (⟨·, none⟩)
  view := ServerError.view

def reply : ObjectType Reply where
  tag := .reply
  fromView := Reply.ofView
  view := Reply.view

end ObjectType

end DisplayClient
