import DisplayClient.Memory.Size

/-!
# Buffers and views

A buffer is a block of memory that a server filled. A view is a window over
a buffer: either the whole block, or a part of another view. A view records
where it starts in the view that it was cut from, and nothing of what lies
further out.
-/

namespace DisplayClient

/-- A block of memory. Its length is a size. -/
structure Buffer where
  /-- What the block holds. -/
  bytes : List UInt8
  /-- The block lies in the address space. -/
  length_lt : bytes.length < sizeLimit
  deriving DecidableEq

namespace Buffer

abbrev length (b : Buffer) : Nat := b.bytes.length

/-- The block without bytes. -/
def empty : Buffer := ⟨[], by decide⟩

/-- The block that holds `bytes`, if the address space has room for it. -/
def ofList? (bytes : List UInt8) : Option Buffer :=
  if h : bytes.length < sizeLimit then some ⟨bytes, h⟩ else none

instance : Inhabited Buffer := ⟨empty⟩

end Buffer

/-- How a view came to its bytes. -/
inductive Origin where
  /-- It is the root: the whole of a block. -/
  | root
  /-- It was cut out of another view, from `offset` on. -/
  | cut (offset : Nat)
  deriving DecidableEq, Inhabited

/-- A window over a block of memory. -/
structure View extends Buffer where
  /-- How the window was made. -/
  origin : Origin
  deriving DecidableEq, Inhabited

namespace View

def root (b : Buffer) : View := ⟨b, .root⟩

/-- Whether the view is a root. -/
def isRoot (v : View) : Bool :=
  match v.origin with
  | .root => true
  | .cut _ => false

/-- Where the view starts in the view that it was cut from; a root starts at 0. -/
def offset (v : View) : Nat :=
  match v.origin with
  | .root => 0
  | .cut offset => offset

def isEmpty (v : View) : Bool := v.bytes.isEmpty

def describe (v : View) : String :=
  let ownership :=
    match v.origin with
    | .root => "Owned"
    | .cut offset => s!"Borrowed \x7b offset: {offset} \x7d"
  s!"BufferView \x7b ownership: {ownership}, len: {v.length} \x7d"

end View

end DisplayClient
