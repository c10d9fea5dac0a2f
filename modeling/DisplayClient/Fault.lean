import DisplayClient.Display.Name
import DisplayClient.Extension.Key
import DisplayClient.Response.Basic
import DisplayClient.Text.Quoted

/-!
# What can go wrong

Every failure of the library is a `Fault`. A fault holds its causes; what it
says to a reader is worked out by `Fault.message`.
-/

namespace DisplayClient

/-- The calls on a transport that can fail. -/
inductive TransportCall where
  | connect
  | flush
  | wait
  | poll
  | query
  | send
  | reply
  | check
  | id
  deriving DecidableEq, Inhabited

namespace TransportCall

def all : List TransportCall :=
  [.connect, .flush, .wait, .poll, .query, .send, .reply, .check, .id]

def name : TransportCall → String
  | .connect => "connect"
  | .flush => "flush"
  | .wait => "wait"
  | .poll => "poll"
  | .query => "query"
  | .send => "send"
  | .reply => "reply"
  | .check => "check"
  | .id => "id"

end TransportCall

/-- What a client can wait for. -/
inductive Awaited where
  | event
  | reply
  deriving DecidableEq

/-- A failure of the transport. -/
inductive IoFault where
  /-- A script has no more of what the client waits for. -/
  | unscripted (awaited : Awaited)
  /-- The server at `target` takes no connections. -/
  | refused (target : DisplayName)
  /-- The call was made to fail. -/
  | injected (call : TransportCall)
  /-- A failure that only its own words describe. -/
  | other (message : String)
  deriving DecidableEq

/-- What an I/O failure says. -/
def IoFault.message : IoFault → String
  | .unscripted .event => "no scripted event"
  | .unscripted .reply => "no scripted reply"
  | .refused target => "display " ++ target.text ++ " refused the connection"
  | .injected call => "injected " ++ call.name ++ " failure"
  | .other message => message

/-- The two lists of numbers that a module declares. -/
inductive DeclaredList where
  | events
  | errors
  deriving DecidableEq

/-- A number that a module declares with two types. -/
structure DeclarationConflict where
  /-- The key that the module was to be registered under. -/
  key : ExtensionKey
  /-- The list that holds the number. -/
  list : DeclaredList
  number : UInt8
  /-- The type that the number was declared with first. -/
  earlier : TypeTag
  /-- The type that it was declared with after that. -/
  later : TypeTag
  deriving DecidableEq

/-- Why a module or an object of an extension was not accepted. -/
inductive ExtensionRefusal where
  /-- One number has two types. -/
  | conflict (conflict : DeclarationConflict)
  /-- The core's key was used for an extension. -/
  | coreKey
  /-- The extension's own code refused, in its own words. -/
  | refused (reason : String)
  deriving DecidableEq

/-- What a refusal says. -/
def ExtensionRefusal.message : ExtensionRefusal → String
  | .conflict c =>
    let item :=
      match c.list with
      | .events => "event"
      | .errors => "error"
    s!"{c.key.text}: {item} {c.number} declared as both {c.earlier.name} and {c.later.name}"
  | .coreKey => "the core key is reserved for add_core"
  | .refused reason => reason

/-- Why an operation failed. -/
inductive Fault where
  /-- The server at `target` could not be reached. -/
  | unreachable (target : DisplayName) (cause : IoFault)
  | disconnected
  | io (cause : IoFault)
  | server (error : ServerError)
  /-- `length` bytes at `offset` were needed where there were `available`. -/
  | range (offset length available : Nat)
  | unknownExtension (key : ExtensionKey)
  | absentExtension (key : ExtensionKey)
  | noCore
  /-- A module or an object of an extension was not accepted. -/
  | invalidExtension (cause : ExtensionRefusal)
  /-- A request that is not void and checked has no error to ask for. -/
  | notCheckable
  /-- A void request has no reply. -/
  | noReply
  | invalidFormat (c : Char)
  /-- Something of type `actual` was taken for one of type `expected`. -/
  | typeMismatch (expected actual : TypeTag)
  | invalidDisplay (name : String)
  /-- No display was named, and the environment names none. -/
  | displayUnset
  deriving DecidableEq

/-- The environment variable that names the display when nothing else does. -/
def displayVariable : String := "DISPLAY"

/-- What a fault says. -/
def Fault.message : Fault → String
  | .unreachable target cause =>
    "Failed to connect to X server: " ++ target.text ++ ": " ++ cause.message
  | .disconnected => "Invalid connection"
  | .io cause => "I/O error on X server connection: " ++ cause.message
  | .server error => "Protocol error: " ++ error.text
  | .range offset length available =>
    s!"Protocol object buffer too short: need {offset}+{length} bytes, have {available}"
  | .unknownExtension key => "No extension found for key: " ++ key.text
  | .absentExtension key => "Extension not present on server: " ++ key.text
  | .noCore => "No core protocol registered"
  | .invalidExtension cause => "Invalid extension: " ++ cause.message
  | .notCheckable => "Request is not void and checked"
  | .noReply => "Request has no reply"
  | .invalidFormat c => "Invalid format character: " ++ Text.quoteChar c
  | .typeMismatch expected actual =>
    "Type mismatch: expected " ++ expected.name ++ ", got " ++ actual.name
  | .invalidDisplay name => "Invalid display: " ++ Text.quoteString name
  | .displayUnset =>
    "Invalid display: " ++ Text.quoteString ("$" ++ displayVariable ++ " is not set")

end DisplayClient
