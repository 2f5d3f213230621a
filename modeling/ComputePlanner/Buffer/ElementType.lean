/-! # The elements of a buffer
Element types have a name in configurations and network descriptors and a size in bytes. -/

namespace ComputePlanner

/-- The type of a buffer's elements. -/
inductive ElementType
  | float
  | float16
  /-- Quantized, as are the next three. -/
  | int8q
  | uint8q
  | int16q
  | int32q
  /-- An index, as is the next. -/
  | int32i
  | int64i
  | int8
  deriving DecidableEq, Repr

namespace ElementType

/-- Every type. -/
def all : List ElementType :=
  [float, float16, int8q, uint8q, int16q, int32q, int32i, int64i, int8]

/-- The short name of a type, as listings show it. -/
def label : ElementType → String
  | float => "Float"
  | float16 => "Float16"
  | int8q => "Int8Q"
  | uint8q => "UInt8Q"
  | int16q => "Int16Q"
  | int32q => "Int32Q"
  | int32i => "Int32I"
  | int64i => "Int64I"
  | int8 => "Int8"

/-- The name of a type: its label with `Ty` behind it. -/
def name (t : ElementType) : String := t.label ++ "Ty"

/-- Bytes of an element. -/
def size : ElementType → Nat
  | int8q | uint8q | int8 => 1
  | float16 | int16q => 2
  | float | int32q | int32i => 4
  | int64i => 8

/-- The types by name. -/
def table : List (String × ElementType) := all.map fun t => (t.name, t)

end ElementType

end ComputePlanner
