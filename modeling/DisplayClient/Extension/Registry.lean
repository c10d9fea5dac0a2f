import DisplayClient.Extension.Module
import DisplayClient.Opcode.Table

/-!
# The registry of modules

Modules are registered by key, the core's among them. The first registration
of a key stands; later ones are told that they came too late. A module whose
declarations give one number two types is refused, whether or not its key is
taken.

* `Registration.conflictAfter?`: the first declaration that contradicts an
  earlier one.
-/

namespace DisplayClient

/-- What is known of a registered module. -/
structure Registration where
  module : TypeTag
  events : List Declaration
  errors : List Declaration
  deriving DecidableEq

namespace Registration

/-- The first declaration that gives a number another type than the declarations `seen`, with
that other type. -/
def conflictAfter? (seen : List Declaration) : List Declaration → Option (Declaration × TypeTag)
  | [] => none
  | declaration :: rest =>
    match seen.find? fun earlier => earlier.number == declaration.number with
    | none => conflictAfter? (declaration :: seen) rest
    | some earlier =>
      if earlier.type = declaration.type then conflictAfter? (declaration :: seen) rest
      else some (declaration, earlier.type)

/-- Checks that a list of declarations gives no number two types. -/
def checkList (key : ExtensionKey) (list : DeclaredList) (declarations : List Declaration) :
    Except Fault Unit :=
  match conflictAfter? [] declarations with
  | none => .ok ()
  | some (later, earlier) =>
    .error (.invalidExtension (.conflict ⟨key, list, later.number, earlier, later.type⟩))

/-- The registration of a module, unless its declarations contradict each other. -/
def checked (key : ExtensionKey) (module : TypeTag) (events errors : List Declaration) :
    Except Fault Registration := do
  checkList key .events events
  checkList key .errors errors
  return ⟨module, events, errors⟩

/-- The module built for `key`, with the opcodes that the server gave it. -/
def build (registration : Registration) (serial : Nat) (key : ExtensionKey)
    (presence : Presence) : Extension where
  serial := serial
  key := key
  majorOpcode := presence.majorOpcode
  firstEvent := presence.firstEvent
  firstError := presence.firstError
  module := ⟨registration.module, key⟩

end Registration

/-- Registered modules by key. -/
structure Registry where
  /-- The registrations, in the order in which they were made. -/
  entries : List (ExtensionKey × Registration)
  deriving Inhabited

namespace Registry

def empty : Registry := ⟨[]⟩

def find? (registry : Registry) (key : ExtensionKey) : Option Registration :=
  registry.entries.lookup key

def contains (registry : Registry) (key : ExtensionKey) : Bool := (registry.find? key).isSome

def hasCore (registry : Registry) : Bool := registry.contains .core

/-- The registry with one registration more. -/
def insert (registry : Registry) (key : ExtensionKey) (registration : Registration) : Registry :=
  ⟨registry.entries ++ [(key, registration)]⟩

/-- Registers the core module, and tells whether this was the first one. -/
def registerCore (module : TypeTag) (events errors : List Declaration) : Step Registry Bool := do
  let registration ← Registration.checked .core module events errors
  if ← Step.read hasCore then
    Step.log (.coreIgnored module)
    return false
  else
    Step.modify (insert · .core registration)
    Step.log (.coreRegistered module)
    return true

/-- Registers the module of an extension, and tells whether it was the first of its key. -/
def register (key : ExtensionKey) (module : TypeTag) (events errors : List Declaration) :
    Step Registry Bool := do
  if key.isCore then
    Step.fail (.invalidExtension .coreKey)
  else
    let registration ← Registration.checked key module events errors
    if ← Step.read (contains · key) then
      Step.log (.extensionIgnored key)
      return false
    else
      Step.log (.extensionRegistered key events.length errors.length)
      Step.modify (insert · key registration)
      return true

end Registry

end DisplayClient
