import ComputePlanner.Buffer.Spec
import ComputePlanner.Plan.Error

/-! # Resolving buffers
A buffer that is asked for becomes a **`Buffer`** when it can be had on a program's cores: its size
is computed, its cores become a mask, and what the hardware demands of its place is checked
(`BufferSpec.resolve`). Whether it fits among the others is not decided here. -/

namespace ComputePlanner

/-- The bit of a core in a mask; core numbers count modulo the 32 bits. -/
def coreBit (core : UInt32) : UInt32 := 1 <<< core

/-- Adds cores to a mask; each has to be one of the program's. -/
def addCores (cores mask : UInt32) : List UInt32 → Except BufferFault UInt32
  | [] => .ok mask
  | core :: rest =>
    if core < cores then addCores cores (mask ||| coreBit core) rest else .error (.core core cores)

/-- Whether a mask has exactly one bit. -/
def isSingleCore (mask : UInt32) : Bool := mask ≠ 0 && mask &&& (mask - 1) = 0

/-- A fence flag. -/
def fenceFlag (point : FencePoint) (value : UInt32) : Except BufferFault Bool :=
  if value = 0 then .ok false
  else if value = 1 then .ok true
  else .error (.fence point value)

namespace BufferSpec

/-- Bytes of a buffer, if there are any and 32 bits hold them. -/
def checkedSize (s : BufferSpec) : Except BufferFault UInt32 :=
  let size := s.byteSize?.getD Buffer.lastAddress
  if s.dims.isEmpty || size = 0 then .error .empty
  else
    match fit32? size with
    | some size => .ok size
    | none => .error (.tooLarge size)

/-- The mask of the cores that hold a buffer: those it names, or all. -/
def coreMask (s : BufferSpec) (cores : UInt32) : Except BufferFault UInt32 := do
  let mask ← addCores cores 0 s.cores
  return if mask = 0 then allCoresMask cores.toNat else mask

/-- Checks what the hardware demands of a buffer's base group and, on the chip, of an output's
cores. -/
def checkPlace (s : BufferSpec) (role : BufferRole) (mask : UInt32) : Except BufferFault Unit :=
  if s.space.isOnChip then
    if s.baseOffset.toNat % pageSize ≠ 0 then .error (.misaligned s.baseOffset)
    else if role = .output ∧ ¬ isSingleCore mask then .error (.spread s.space mask)
    else .ok ()
  else if s.baseOffset ≠ 0 then .error .baseOffChip
  else .ok ()

/-- The fences of a buffer's transfer; a buffer that is not transferred has none. -/
def fences (s : BufferSpec) (role : BufferRole) : Except BufferFault (Bool × Bool) :=
  if role = .internal then .ok (false, false)
  else do
    let inFence ← fenceFlag .before s.inFence
    let outFence ← fenceFlag .after s.outFence
    return (inFence, outFence)

/-- The buffer, if a program with that many cores can have it. -/
def resolveAs (s : BufferSpec) (name : BufferName) (cores : UInt32) :
    Except BufferFault Buffer := do
  let size ← s.checkedSize
  let mask ← s.coreMask cores
  s.checkPlace name.role mask
  let b : Buffer :=
    { name, type := s.type, dims := s.dims, space := s.space, baseOffset := s.baseOffset,
      deviceOffset := s.deviceOffset, hostOffset := s.hostOffset, size, cores := mask,
      inFence := false, outFence := false, allowPartial := s.allowPartial }
  if (b.stop?.bind fit32?).isNone then throw .range
  let (inFence, outFence) ← s.fences name.role
  if s.allowPartial ∧ name.role ≠ .input then throw .partialTransfer
  return { b with inFence, outFence }

/-- The buffer, if a program with that many cores can have it; a fault names it. -/
def resolve (s : BufferSpec) (name : BufferName) (cores : UInt32) : Except ConfigFault Buffer :=
  (s.resolveAs name cores).mapError (.buffer name)

end BufferSpec

end ComputePlanner
