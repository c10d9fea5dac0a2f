import DisplayClient.Extension.Module

/-!
# Known extensions

What a connection keeps of the extensions that it asked for: those that were
resolved, in order, and those that the server does not have. Instances are
numbered as they are made, so that one that is made anew is told from one
that was kept.
-/

namespace DisplayClient

/-- What a connection keeps of the extensions that it asked for. -/
structure KnownExtensions where
  core : Option Extension
  /-- The extensions that were resolved, in order. -/
  resolved : List Extension
  /-- The extensions that the server does not have. -/
  absent : List ExtensionKey
  /-- How many instances were made so far. -/
  instances : Nat
  deriving DecidableEq, Inhabited

namespace KnownExtensions

def empty : KnownExtensions := ⟨none, [], [], 0⟩

/-- The resolved extension with a key. -/
def find? (known : KnownExtensions) (key : ExtensionKey) : Option Extension :=
  known.resolved.find? (·.key == key)

/-- How many extensions were resolved; the core does not count. -/
def length (known : KnownExtensions) : Nat := known.resolved.length

def isEmpty (known : KnownExtensions) : Bool := known.resolved.isEmpty

/-- Keeps a core that was just taken up. -/
def setCore (known : KnownExtensions) (core : Extension) : KnownExtensions :=
  { known with core := some core, instances := known.instances + 1 }

/-- Keeps an extension that was just resolved. -/
def insert (known : KnownExtensions) (extension : Extension) : KnownExtensions :=
  { known with
    resolved := known.resolved ++ [extension], instances := known.instances + 1 }

/-- Keeps that the server does not have an extension. -/
def insertAbsent (known : KnownExtensions) (key : ExtensionKey) : KnownExtensions :=
  { known with absent := known.absent ++ [key] }

/-- Forgets what is kept. Instances made later are new ones. -/
def clear (known : KnownExtensions) : KnownExtensions :=
  { empty with instances := known.instances }

end KnownExtensions

end DisplayClient
