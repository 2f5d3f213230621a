import ComputePlanner.Buffer.ElementType
import ComputePlanner.Buffer.Role
import ComputePlanner.Bytes.Word
import ComputePlanner.Hardware.Memory

/-! # Buffers
A **`Buffer`** has a size and a set of cores. It occupies a range of its address space, from the
start of its base group plus its offset in the group; offsets are words of 64 bits, so the range is
cut off at the end of the address space (`Buffer.start`, `Buffer.stop`) or there is none
(`Buffer.stop?`). -/

namespace ComputePlanner

/-- How messages and descriptors refer to a buffer: by its role and its place among the buffers of
that role. -/
structure BufferName where
  role : BufferRole
  /-- Its place, of any size: that a machine counts in words, and would start again at 0 behind the
  last of them, is left out. -/
  index : Nat
  deriving DecidableEq, Repr

/-- The written name. -/
def BufferName.text (n : BufferName) : String :=
  match n.role with
  | .input => s!"inputBuff_{n.index}"
  | .output => s!"outputBuff_{n.index}"
  | .internal => s!"internalBuff_{n.index}"

/-- A buffer whose size and cores are settled. -/
structure Buffer where
  name : BufferName
  type : ElementType
  dims : List UInt64
  space : AddressSpace
  /-- Where its base group starts. -/
  baseOffset : UInt64
  /-- Where it starts in its base group. -/
  deviceOffset : UInt64
  /-- Where it starts in the host's buffer. -/
  hostOffset : UInt64
  /-- Its bytes. -/
  size : UInt32
  /-- One bit for each core that holds it. -/
  cores : UInt32
  /-- Whether a fence precedes the transfer's semaphore operation. -/
  inFence : Bool
  /-- Whether a fence follows the transfer's semaphore operation. -/
  outFence : Bool
  /-- Whether the host may transfer only the front of it. -/
  allowPartial : Bool
  deriving DecidableEq, Repr

namespace Buffer

/-- The last address. -/
def lastAddress : Nat := UInt64.size - 1

/-- Its role. -/
def role (b : Buffer) : BufferRole := b.name.role

/-- Where it starts in its space, cut off at the last address. -/
def start (b : Buffer) : Nat := min (b.baseOffset.toNat + b.deviceOffset.toNat) lastAddress

/-- One past its last byte, cut off at the last address. -/
def stop (b : Buffer) : Nat := min (b.start + b.size.toNat) lastAddress

/-- One past its last byte, if that is an address. -/
def stop? (b : Buffer) : Option Nat :=
  let stop := b.baseOffset.toNat + b.deviceOffset.toNat + b.size.toNat
  if stop ≤ lastAddress then some stop else none

end Buffer

end ComputePlanner
