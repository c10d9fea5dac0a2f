import DisplayClient.Extension.Known
import DisplayClient.Extension.Registry
import DisplayClient.Opcode.Classify

/-!
# Resolving extensions

A connection resolves an extension when it is first asked for: the registry
says which module it is, the server says whether it has the extension and at
which opcodes, and what the module declares goes into the tables. The answer
is kept, and so is the answer that the server does not have the extension.
The core is taken up once, at base 0, without asking the server.
-/

namespace DisplayClient

/-- What a connection knows of its protocol: the extensions and the opcode tables. -/
structure Resolver where
  /-- The extensions asked for. -/
  known : KnownExtensions
  /-- The types registered for opcodes. -/
  tables : OpcodeTables
  deriving DecidableEq, Inhabited

namespace Resolver

def empty : Resolver := ⟨.empty, .empty⟩

def modifyKnown (f : KnownExtensions → KnownExtensions) : Step Resolver Unit :=
  Step.modify fun resolver => { resolver with known := f resolver.known }

def onTables {α : Type} (step : Step OpcodeTables α) : Step Resolver α :=
  step.onPart tables fun tables resolver => { resolver with tables := tables }

/-- Takes up the registered core module, if there is one and it is not taken up already. -/
def takeCore (registry : Registry) : Step Resolver (Option Extension) := do
  let known ← Step.read Resolver.known
  match known.core with
  | some core => return some core
  | none =>
    match registry.find? .core with
    | none => return none
    | some registration =>
      let core := registration.build known.instances .core .absent
      onTables (OpcodeTables.insertModule 0 registration.events 0 registration.errors)
      Step.log
        (.coreLoaded registration.module registration.events.length registration.errors.length)
      modifyKnown (·.setCore core)
      return some core

/-- Keeps the server's answer about an extension: that it is absent, or where it is, with the
module's declarations in the tables. -/
def settle (registration : Registration) (key : ExtensionKey) (presence : Presence) :
    Step Resolver Extension := do
  if presence.present then
    onTables
      (OpcodeTables.insertModule presence.firstEvent registration.events
        presence.firstError registration.errors)
    let known ← Step.read Resolver.known
    let extension := registration.build known.instances key presence
    Step.log
      (.extensionResolved key presence.majorOpcode presence.firstEvent presence.firstError)
    modifyKnown (·.insert extension)
    return extension
  else
    Step.log (.extensionAbsent key)
    modifyKnown (·.insertAbsent key)
    Step.fail (.absentExtension key)

/-- The extension with a key. The server is asked by `query`, unless the answer is kept. -/
def resolve {σ : Type} (registry : Registry) (key : ExtensionKey)
    (query : ExtensionKey → Step σ Presence) : Step (Resolver × σ) Extension := do
  let known ← Step.read fun s : Resolver × σ => s.1.known
  if key.isCore then
    match known.core with
    | some core => return core
    | none => Step.fail .noCore
  else
    match known.find? key with
    | some extension => return extension
    | none =>
      if key ∈ known.absent then
        Step.fail (.absentExtension key)
      else
        match registry.find? key with
        | none => Step.fail (.unknownExtension key)
        | some registration =>
          let presence ← (query key).onPart (·.2) fun server s => (s.1, server)
          (settle registration key presence).onPart (·.1) fun resolver s => (resolver, s.2)

end Resolver

end DisplayClient
