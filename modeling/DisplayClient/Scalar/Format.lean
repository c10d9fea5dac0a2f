import DisplayClient.Fault
import DisplayClient.Scalar.Basic

/-!
# Scalar formats

A format character names a scalar type at run time. Numbers read by format
are widened to 64 bits; widening changes no value.
-/

namespace DisplayClient

/-- A scalar type, named at run time. -/
inductive ScalarFormat where
  | int8
  | uint8
  | int16
  | uint16
  | int32
  | uint32
  | int64
  | uint64
  | float32
  | float64
  deriving DecidableEq

/-- A number of a type that is known at run time only. -/
inductive ScalarValue where
  | int (n : Int64)
  | uint (n : UInt64)
  | float (x : Float)

namespace ScalarFormat

/-- The format that a character names. -/
def ofChar : Char → Except Fault ScalarFormat
  | 'b' => .ok .int8
  | 'B' => .ok .uint8
  | 'h' => .ok .int16
  | 'H' => .ok .uint16
  | 'i' => .ok .int32
  | 'I' => .ok .uint32
  | 'L' => .ok .int64
  | 'K' => .ok .uint64
  | 'f' => .ok .float32
  | 'd' => .ok .float64
  | c => .error (.invalidFormat c)

/-- How many bytes a number takes. -/
def width : ScalarFormat → Nat
  | .int8 | .uint8 => 1
  | .int16 | .uint16 => 2
  | .int32 | .uint32 | .float32 => 4
  | .int64 | .uint64 | .float64 => 8

/-- The number in `width` bytes. -/
def read (format : ScalarFormat) (bs : List UInt8) : ScalarValue :=
  match format with
  | .int8 => .int (Scalar.read bs : Int8).toInt64
  | .uint8 => .uint (Scalar.read bs : UInt8).toUInt64
  | .int16 => .int (Scalar.read bs : Int16).toInt64
  | .uint16 => .uint (Scalar.read bs : UInt16).toUInt64
  | .int32 => .int (Scalar.read bs : Int32).toInt64
  | .uint32 => .uint (Scalar.read bs : UInt32).toUInt64
  | .int64 => .int (Scalar.read bs)
  | .uint64 => .uint (Scalar.read bs)
  | .float32 => .float (Scalar.read bs : Float32).toFloat
  | .float64 => .float (Scalar.read bs)

end ScalarFormat

end DisplayClient
