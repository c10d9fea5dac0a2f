import DisplayClient.Step

/-!
# Opcode tables

A table says which type is registered for an opcode. An opcode is a byte, so
a table has 256 slots. Modules declare numbers relative to a base; the base
and the number must add up to an opcode.

* `OpcodeTable.insert_of_lt`, `OpcodeTable.insert_of_le`: what a registration
  does where it fits and where it does not.
-/

namespace DisplayClient

/-- How many opcodes there are. -/
abbrev tableSize : Nat := 256

/-- A number that a module declares, and the type that it stands for. -/
structure Declaration where
  /-- The number, relative to the module's base. -/
  number : UInt8
  type : TypeTag
  deriving DecidableEq

/-- Which type is registered for which opcode. -/
structure OpcodeTable where
  slots : Vector (Option TypeTag) tableSize
  /-- One more than the highest opcode that was registered. -/
  length : Nat
  deriving DecidableEq

namespace OpcodeTable

def empty : OpcodeTable := ⟨Vector.replicate tableSize none, 0⟩

instance : Inhabited OpcodeTable := ⟨empty⟩

/-- The slot of an opcode. -/
def slotOf (opcode : UInt8) : Fin tableSize := ⟨opcode.toNat, opcode.toNat_lt⟩

/-- The type registered for `opcode`. -/
def get? (table : OpcodeTable) (opcode : UInt8) : Option TypeTag := table.slots[slotOf opcode]

def isEmpty (table : OpcodeTable) : Bool := table.length == 0

/-- How many slots are taken. -/
def count (table : OpcodeTable) : Nat := table.slots.toList.countP Option.isSome

/-- The taken slots in order, with their types. -/
def toList (table : OpcodeTable) : List (Nat × TypeTag) :=
  table.slots.toList.zipIdx.filterMap fun (type, slot) => type.map (slot, ·)

/-- The table with `type` in a slot. -/
def set (table : OpcodeTable) (slot : Fin tableSize) (type : TypeTag) : OpcodeTable :=
  ⟨table.slots.set slot (some type), max table.length (slot + 1)⟩

/-- What is logged when `type` comes to a slot that holds `old`. -/
def replacement (slot : Nat) (type : TypeTag) : Option TypeTag → List LogLine
  | none => []
  | some old => [.slotReplaced slot type old]

/-- The fault of registering `number` at a base that it does not fit. -/
def slotFault (base : UInt8) (number : Nat) : Fault := .range base.toNat (number + 1) tableSize

/-- Registers `type` for the opcode `base + number`. A slot that holds that type already is left
alone; a slot that holds another gets the new one, with a warning. -/
def insert (base number : UInt8) (type : TypeTag) : Step OpcodeTable Unit := fun table =>
  if h : base.toNat + number.toNat < tableSize then
    let slot : Fin tableSize := ⟨base.toNat + number.toNat, h⟩
    if table.slots[slot] = some type then ⟨.ok (), table, []⟩
    else ⟨.ok (), table.set slot type, replacement slot type table.slots[slot]⟩
  else ⟨.error (slotFault base number.toNat), table, []⟩

theorem insert_of_lt {base number : UInt8} (h : base.toNat + number.toNat < tableSize)
    (type : TypeTag) (table : OpcodeTable) :
    insert base number type table =
      let slot : Fin tableSize := ⟨base.toNat + number.toNat, h⟩
      if table.slots[slot] = some type then ⟨.ok (), table, []⟩
      else ⟨.ok (), table.set slot type, replacement slot type table.slots[slot]⟩ := by
  simp only [insert, h, dite_true]

theorem insert_of_le {base number : UInt8} (h : tableSize ≤ base.toNat + number.toNat)
    (type : TypeTag) (table : OpcodeTable) :
    insert base number type table = ⟨.error (slotFault base number.toNat), table, []⟩ := by
  simp only [insert, Nat.not_lt.mpr h, dite_false]

/-- The highest declared number. -/
def highest? (declarations : List Declaration) : Option Nat :=
  (declarations.map fun declaration => declaration.number.toNat).max?

/-- Checks that every declared number fits the base. -/
def checkRoom (base : UInt8) (declarations : List Declaration) : Except Fault Unit :=
  match highest? declarations with
  | none => .ok ()
  | some number =>
    if base.toNat + number < tableSize then .ok () else .error (slotFault base number)

/-- Registers every declaration at `base`, in order; none if one of them does not fit. -/
def insertAll (base : UInt8) (declarations : List Declaration) : Step OpcodeTable Unit := do
  checkRoom base declarations
  declarations.forM fun declaration => insert base declaration.number declaration.type

end OpcodeTable

end DisplayClient
