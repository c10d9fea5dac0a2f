import DisplayClient.Memory.LittleEndian
import DisplayClient.Memory.View
import DisplayClient.TypeTag

/-!
# Responses

Whatever a server sends begins with the same four bytes: a kind, a detail
and the low half of the number of the last request that it handled. Kind 0
marks an error, whose code is the detail; kind 1 marks a reply; any other
kind is an event.

An event or an error is a response together with the type that an opcode
table found for it.
-/

namespace DisplayClient

/-- How many bytes the common header has. -/
abbrev responseHeaderSize : Nat := 4

/-- How many bytes a reply has before its variable part. -/
abbrev replyHeaderSize : Nat := 32

/-- The kind of an error. -/
abbrev errorKind : UInt8 := 0

/-- The kind of a reply. -/
abbrev replyKind : UInt8 := 1

/-- The bit of an event's kind that says that a client sent it. -/
abbrev syntheticBit : UInt8 := 0x80

/-- A view that has the common header. -/
structure Response where
  view : View
  header_le : responseHeaderSize ≤ view.length
  deriving DecidableEq

namespace Response

/-- A byte of the header. -/
def byte (r : Response) (i : Fin responseHeaderSize) : UInt8 :=
  r.view.bytes.get (i.castLE r.header_le)

/-- The first byte: what kind of response this is. -/
def kind (r : Response) : UInt8 := r.byte 0

/-- The second byte: an event's detail, or an error's code. -/
def detail (r : Response) : UInt8 := r.byte 1

/-- The low half of the number of the last request handled. -/
def sequence (r : Response) : UInt16 := UInt16.ofNat (LittleEndian.value [r.byte 2, r.byte 3])

/-- Whether the response is an error. -/
def isError (r : Response) : Bool := r.kind == errorKind

end Response

/-- An event. -/
structure Event where
  response : Response
  /-- The type registered for the event's opcode. -/
  registered : Option TypeTag
  deriving DecidableEq

namespace Event

def view (e : Event) : View := e.response.view

/-- The first byte, with the synthetic bit. -/
def kind (e : Event) : UInt8 := e.response.kind

/-- What events are looked up by: the kind without the synthetic bit. -/
def opcode (e : Event) : UInt8 := e.kind &&& ~~~syntheticBit

/-- Whether a client sent the event. -/
def isSynthetic (e : Event) : Bool := e.kind &&& syntheticBit != 0

/-- The low half of the number of the last request handled. -/
def sequence (e : Event) : UInt16 := e.response.sequence

/-- The event's type: the registered one, or that of any event. -/
def type (e : Event) : TypeTag := e.registered.getD .event

def name (e : Event) : String := e.type.name

/-- Whether the event was classified as a `tag`. -/
def is (e : Event) (tag : TypeTag) : Bool := e.type == tag

end Event

/-- An error that the server reported. -/
structure ServerError where
  response : Response
  /-- The type registered for the error's code. -/
  registered : Option TypeTag
  deriving DecidableEq

namespace ServerError

def view (e : ServerError) : View := e.response.view

/-- What errors are looked up by. -/
def code (e : ServerError) : UInt8 := e.response.detail

/-- The low half of the number of the request that failed. -/
def sequence (e : ServerError) : UInt16 := e.response.sequence

/-- The error's type: the registered one, or that of any error. -/
def type (e : ServerError) : TypeTag := e.registered.getD .error

def name (e : ServerError) : String := e.type.name

/-- Whether the error was classified as a `tag`. -/
def is (e : ServerError) (tag : TypeTag) : Bool := e.type == tag

def text (e : ServerError) : String := s!"{e.name} (code {e.code}, sequence {e.sequence})"

end ServerError

end DisplayClient
