import DisplayClient.Extension.Key
import DisplayClient.Text.Quoted
import DisplayClient.TypeTag

/-!
# Extensions of a connection

A server says of an extension whether it has it, and at which opcodes. A
connection keeps that answer together with the module that was built for the
extension; the opcodes of an extension never change on one connection.
-/

namespace DisplayClient

/-- A server's answer to the question for an extension. -/
structure Presence where
  present : Bool
  /-- The opcode of the extension's requests. -/
  majorOpcode : UInt8
  /-- The opcode of the extension's event 0. -/
  firstEvent : UInt8
  /-- The code of the extension's error 0. -/
  firstError : UInt8
  deriving DecidableEq

namespace Presence

/-- The answer of a server that does not have the extension. -/
def absent : Presence := ⟨false, 0, 0, 0⟩

end Presence

/-- The module of an extension. It knows the key that it was built for. -/
structure ExtensionModule where
  type : TypeTag
  key : ExtensionKey
  deriving DecidableEq, Inhabited

/-- An extension, or the core protocol, as one connection knows it. -/
structure Extension where
  /-- Which of its connection's instances this is, counted from 0. -/
  serial : Nat
  key : ExtensionKey
  /-- The opcode of its requests; 0 for the core. -/
  majorOpcode : UInt8
  /-- The opcode of its event 0. -/
  firstEvent : UInt8
  /-- The code of its error 0. -/
  firstError : UInt8
  module : ExtensionModule
  deriving DecidableEq, Inhabited

namespace Extension

/-- The extension's module, if it is a `type`. -/
def moduleOf? (e : Extension) (type : TypeTag) : Option ExtensionModule :=
  if e.module.type = type then some e.module else none

def describe (e : Extension) : String :=
  let name :=
    match e.key with
    | .core => "None"
    | .named name => "Some(" ++ Text.quoteString name ++ ")"
  s!"Extension \x7b key: ExtensionKey \x7b name: {name} \x7d, " ++
    s!"module: {Text.quoteString e.module.type.name}, major_opcode: {e.majorOpcode}, " ++
    s!"first_event: {e.firstEvent}, first_error: {e.firstError} \x7d"

end Extension

end DisplayClient
