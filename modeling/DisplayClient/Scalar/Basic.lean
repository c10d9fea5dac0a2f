import DisplayClient.Memory.LittleEndian

/-!
# Scalars

Numbers of a fixed width, as they lie in memory: little-endian, signed ones
in two's complement, floating-point ones by their bits.
-/

namespace DisplayClient

/-- A type of numbers that lie in `width` bytes. -/
class Scalar (α : Type) where
  /-- How many bytes a number takes. -/
  width : Nat
  /-- The number in `width` bytes. -/
  read : List UInt8 → α
  /-- The bytes of a number. -/
  write : α → List UInt8

namespace Scalar

instance : Scalar UInt8 where
  width := 1
  read bs := UInt8.ofNat (LittleEndian.value bs)
  write x := LittleEndian.bytes 1 x.toNat

instance : Scalar UInt16 where
  width := 2
  read bs := UInt16.ofNat (LittleEndian.value bs)
  write x := LittleEndian.bytes 2 x.toNat

instance : Scalar UInt32 where
  width := 4
  read bs := UInt32.ofNat (LittleEndian.value bs)
  write x := LittleEndian.bytes 4 x.toNat

instance : Scalar UInt64 where
  width := 8
  read bs := UInt64.ofNat (LittleEndian.value bs)
  write x := LittleEndian.bytes 8 x.toNat

instance : Scalar Int8 where
  width := 1
  read bs := (read bs : UInt8).toInt8
  write x := write x.toUInt8

instance : Scalar Int16 where
  width := 2
  read bs := (read bs : UInt16).toInt16
  write x := write x.toUInt16

instance : Scalar Int32 where
  width := 4
  read bs := (read bs : UInt32).toInt32
  write x := write x.toUInt32

instance : Scalar Int64 where
  width := 8
  read bs := (read bs : UInt64).toInt64
  write x := write x.toUInt64

instance : Scalar Float32 where
  width := 4
  read bs := Float32.ofBits (read bs)
  write x := write x.toBits

instance : Scalar Float where
  width := 8
  read bs := Float.ofBits (read bs)
  write x := write x.toBits

end Scalar

end DisplayClient
