/-!
# Type tags

A type tag is the identity of an object type. Opcode tables hold tags, and a
classified event or error answers questions about its type by comparing
them.
-/

namespace DisplayClient

/-- The identity of an object type or of a protocol module. -/
structure TypeTag where
  /-- What tells types apart. -/
  id : String
  /-- What messages call the type. Two types may have the same name. -/
  name : String
  deriving DecidableEq, Inhabited, Repr

namespace TypeTag

/-- A type that is called by its own identity. -/
def named (name : String) : TypeTag := ⟨name, name⟩

def view : TypeTag := named "Protobj"

def response : TypeTag := named "Response"

/-- An event of no registered type. -/
def event : TypeTag := named "Event"

/-- A server error of no registered type. -/
def error : TypeTag := named "Error"

def reply : TypeTag := named "Reply"

def describe (tag : TypeTag) : String := s!"DecoderId({tag.name})"

end TypeTag

end DisplayClient
