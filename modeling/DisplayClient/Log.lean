import DisplayClient.Display.Name
import DisplayClient.Extension.Key
import DisplayClient.Request
import DisplayClient.TypeTag

/-!
# Log lines

What an operation tells about itself besides its result. A line is a value;
`LogLine.text` gives its words, with the level in front.
-/

namespace DisplayClient

/-- How much a log line matters. -/
inductive LogLevel where
  /-- Every buffer. -/
  | trace
  /-- Every connection and extension. -/
  | debug
  /-- What is tolerated but suspicious. -/
  | warn
  deriving DecidableEq

def LogLevel.name : LogLevel → String
  | .trace => "TRACE"
  | .debug => "DEBUG"
  | .warn => "WARN"

/-- A log line. -/
inductive LogLine where
  | coreRegistered (module : TypeTag)
  /-- There was a core module already. -/
  | coreIgnored (module : TypeTag)
  /-- There was a module with this key already. -/
  | extensionIgnored (key : ExtensionKey)
  | extensionRegistered (key : ExtensionKey) (events errors : Nat)
  /-- A slot of an opcode table changed its type. -/
  | slotReplaced (slot : Nat) (new old : TypeTag)
  | eventClassified (opcode : UInt8) (type : TypeTag)
  | errorClassified (code : UInt8) (type : TypeTag)
  /-- A connection took up the core module. -/
  | coreLoaded (module : TypeTag) (events errors : Nat)
  /-- There was no core module to take up. -/
  | coreMissing
  | extensionAbsent (key : ExtensionKey)
  /-- The server has the extension, at these opcodes. -/
  | extensionResolved (key : ExtensionKey) (major firstEvent firstError : UInt8)
  | connecting (target : DisplayName)
  | connected (screen : UInt64)
  | disconnected
  | requestSent (sequence : UInt32) (request : Request)
  deriving DecidableEq

namespace LogLine

/-- How much the line matters. -/
def level : LogLine → LogLevel
  | .coreIgnored .. | .slotReplaced .. => .warn
  | .eventClassified .. | .errorClassified .. | .requestSent .. => .trace
  | _ => .debug

/-- What the line says. -/
def message : LogLine → String
  | .coreRegistered module => s!"Registered core protocol {module.name}"
  | .coreIgnored module => s!"Core protocol already registered, ignoring {module.name}"
  | .extensionIgnored key => s!"Extension {key.text} already registered"
  | .extensionRegistered key events errors =>
    s!"Registered extension {key.text} ({events} events, {errors} errors)"
  | .slotReplaced slot new old => s!"Opcode {slot} re-registered: {new.name} replaces {old.name}"
  | .eventClassified opcode type => s!"Event opcode {opcode} -> {type.name}"
  | .errorClassified code type => s!"Error code {code} -> {type.name}"
  | .coreLoaded module events errors =>
    s!"Core protocol {module.name} loaded ({events} events, {errors} errors)"
  | .coreMissing => "No core protocol registered; events and errors decode generically"
  | .extensionAbsent key => s!"Extension {key.text} not present on server"
  | .extensionResolved key major firstEvent firstError =>
    s!"Extension {key.text} resolved: major {major}, first event {firstEvent}, " ++
      s!"first error {firstError}"
  | .connecting target => s!"Connecting to display {target.text}"
  | .connected screen => s!"Connected, preferred screen {screen}"
  | .disconnected => "Disconnected"
  | .requestSent sequence request =>
    s!"Request {sequence} sent (void: {request.isVoid}, checked: {request.isChecked})"

/-- The line with its level. -/
def text (line : LogLine) : String := line.level.name ++ " " ++ line.message

end LogLine

end DisplayClient
