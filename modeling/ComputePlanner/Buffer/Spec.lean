import ComputePlanner.Buffer.ElementType
import ComputePlanner.Hardware.Memory

/-! # A buffer as it is asked for
What a configuration says of a buffer, before any of it is checked. -/

namespace ComputePlanner

/-- A buffer that a configuration asks for. -/
structure BufferSpec where
  /-- The type of its elements. -/
  type : ElementType
  /-- Its shape: there are as many elements as the product says. -/
  dims : List UInt64
  /-- Where it starts in the host's buffer. -/
  hostOffset : UInt64 := 0
  /-- Where it starts in its base group. -/
  deviceOffset : UInt64 := 0
  /-- Where its base group starts. -/
  baseOffset : UInt64 := 0
  /-- The memory it is placed in. -/
  space : AddressSpace
  /-- The cores that hold it; none stands for every core. -/
  cores : List UInt32 := []
  /-- Whether a fence precedes the transfer's semaphore operation: 0 or 1. -/
  inFence : UInt32 := 0
  /-- Whether a fence follows the transfer's semaphore operation: 0 or 1. -/
  outFence : UInt32 := 0
  /-- Whether the host may transfer only the front of it. -/
  allowPartial : Bool := false
  deriving DecidableEq, Repr

/-- The product of two sizes if it fits an address. -/
def checkedMul (a b : Nat) : Option Nat := if a * b < UInt64.size then some (a * b) else none

/-- Bytes of a buffer. Every partial product from the front must fit an address, so a zero behind an
overflow does not help. -/
def BufferSpec.byteSize? (s : BufferSpec) : Option Nat :=
  s.dims.foldlM (fun size d => checkedMul size d.toNat) s.type.size

end ComputePlanner
