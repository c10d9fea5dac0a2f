import DisplayClient.Display.Resolve
import DisplayClient.Extension.Resolver
import DisplayClient.Response.Decode
import DisplayClient.Transport.Basic

/-!
# Sessions

A connection is open until it is closed, and closed for good after that. It
has a resolver of its own, a screen that the client prefers, and it talks to
a server over a transport. A session is a connection with the transport and
the registry that it uses; both may be used by others in between.

Every operation that needs the transport fails on a closed connection, and
leaves the transport alone.
-/

namespace DisplayClient

/-- A connection to a server. -/
structure Connection where
  isConnected : Bool
  /-- The screen that the client starts on. -/
  preferredScreen : UInt64
  /-- What the connection knows of its protocol. -/
  resolver : Resolver
  deriving DecidableEq, Inhabited

namespace Connection

/-- Opens a connection over a transport, and takes up the core module. -/
def start {σ : Type} (registry : Registry) (screen : UInt64) : Step σ Connection := do
  let (core, resolver) ← Step.onOwn Resolver.empty (Resolver.takeCore registry)
  if core.isNone then
    Step.log .coreMissing
  Step.log (.connected screen)
  return ⟨true, screen, resolver⟩

/-- Connects to a display by `reach`, which gives the screen to start on. -/
def connect {σ : Type} (registry : Registry) (reach : DisplayName → IoCall σ UInt64)
    (name environment : Option String) : Step σ Connection := do
  let target ← DisplayName.resolve name environment
  Step.log (.connecting target)
  let screen ← Step.call (.unreachable target) (reach target)
  start registry screen

def describe (c : Connection) : String :=
  s!"Connection \x7b connected: {c.isConnected}, pref_screen: {c.preferredScreen}, " ++
    s!"extensions: {c.resolver.known.length} \x7d"

end Connection

/-- A connection with what it uses. -/
structure Session (σ : Type) where
  /-- The modules that the connection knows extensions by. -/
  registry : Registry
  connection : Connection
  server : σ

namespace Session

variable {σ α : Type}

/-- Makes a call on the transport, if the connection is open. -/
def onServer (f : IoCall σ α) : Step (Session σ) α := do
  if ← Step.read (·.connection.isConnected) then
    (Step.call .io f).onPart server fun server s => { s with server := server }
  else
    Step.fail .disconnected

def onResolver (step : Step Resolver α) : Step (Session σ) α :=
  step.onPart (·.connection.resolver) fun resolver s =>
    { s with connection := { s.connection with resolver := resolver } }

/-- Raises the error that a response is. -/
def raise (response : Response) : Step (Session σ) α := do
  let error ← onResolver (Resolver.onTables (OpcodeTables.classifyError response))
  Step.fail (.server error)

/-- Raises the error that a buffer holds, whatever its kind. -/
def raiseRaw (raw : Buffer) : Step (Session σ) α := do
  let response ← Response.ofView (View.root raw)
  raise response

/-- The event that a buffer holds; an error is raised. -/
def classify (raw : Buffer) : Step (Session σ) Event := do
  let response ← Response.ofView (View.root raw)
  if response.isError then
    raise response
  else
    onResolver (Resolver.onTables (OpcodeTables.classifyEvent response))

variable [Transport σ]

/-- Closes the connection, once. -/
def disconnect : Step (Session σ) Unit := do
  if ← Step.read (·.connection.isConnected) then
    Step.modify fun s =>
      { s with
        connection := { s.connection with isConnected := false }
        server := Transport.disconnect s.server }
    Step.log .disconnected

/-- Lets go of the connection, which closes it. -/
def drop : Step (Session σ) Unit := disconnect

def flush : Step (Session σ) Unit := onServer Transport.flush

/-- The longest request that the server takes, in four-byte units. -/
def requestLimit : Step (Session σ) UInt32 :=
  onServer fun server => (.ok (Transport.requestLimit server), server)

/-- Starts asking for the longest request. -/
def prefetchRequestLimit : Step (Session σ) Unit :=
  onServer fun server => (.ok (), Transport.prefetchRequestLimit server)

/-- A new resource id. -/
def freshId : Step (Session σ) UInt32 := onServer Transport.freshId

/-- What the server said of itself. -/
def setup : Step (Session σ) View :=
  onServer fun server => (.ok (View.root (Transport.setup server)), server)

/-- The next event; waits for it. -/
def nextEvent : Step (Session σ) Event := do
  let raw ← onServer Transport.nextEvent
  classify raw

/-- The next event, if there is one. -/
def nextEvent? : Step (Session σ) (Option Event) := do
  match ← onServer Transport.nextEvent? with
  | none => return none
  | some raw =>
    let event ← classify raw
    return some event

/-- The extension with a key. -/
def extension (key : ExtensionKey) : Step (Session σ) Extension := do
  if ← Step.read (·.connection.isConnected) then
    let registry ← Step.read registry
    let query := fun key => Step.call .io (Transport.presenceOf key)
    (Resolver.resolve registry key query).onPart (fun s => (s.connection.resolver, s.server))
      fun (resolver, server) s =>
        { s with connection := { s.connection with resolver := resolver }, server := server }
  else
    Step.fail .disconnected

/-- The core protocol. -/
def core : Step (Session σ) Extension := extension .core

/-- The core's module, which must be a `type`. -/
def coreModule (type : TypeTag) : Step (Session σ) ExtensionModule := do
  let core ← core
  match core.moduleOf? type with
  | some module => return module
  | none => Step.fail (.typeMismatch type core.module.type)

end Session

end DisplayClient
