/-!
# Extension keys

A key names a part of the protocol: the core, which every server has, or an
extension by the name that servers know it by.
-/

namespace DisplayClient

/-- The identity of an extension, or of the core protocol. -/
inductive ExtensionKey where
  /-- The core protocol. -/
  | core
  /-- The extension that servers call `name`. -/
  | named (name : String)
  deriving DecidableEq, Inhabited

namespace ExtensionKey

/-- What servers call the extension; the core has no name. -/
def name? : ExtensionKey → Option String
  | .core => none
  | .named name => some name

def isCore : ExtensionKey → Bool
  | .core => true
  | .named _ => false

theorem isCore_of_ne {key : ExtensionKey} (h : key ≠ .core) : key.isCore = false := by
  cases key with
  | core => exact absurd rfl h
  | named => rfl

/-- What messages call the extension. -/
def text : ExtensionKey → String
  | .core => "core"
  | .named name => name

end ExtensionKey

end DisplayClient
