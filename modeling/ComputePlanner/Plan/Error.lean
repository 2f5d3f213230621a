import ComputePlanner.Artifact.Error
import ComputePlanner.Buffer.Basic
import ComputePlanner.Hardware.Core

/-! # Faults of planning
A configuration can ask for what the hardware cannot do. Each such demand is a cause of its own,
**`BufferFault`** for those that concern one buffer and **`ConfigFault`** for all; the wording is in
`BufferFault.message` and `ConfigFault.message`. **`PlanError`** adds what else can go wrong between
a configuration and a package. -/

namespace ComputePlanner

/-- The two fences of a transfer. -/
inductive FencePoint
  | before
  | after
  deriving DecidableEq, Repr

/-- The key of a fence in a configuration. -/
def FencePoint.key : FencePoint → String
  | before => "inSyncFence"
  | after => "outSyncFence"

/-- Why a buffer cannot be had. -/
inductive BufferFault
  /-- It has no dimension, or one of them is 0. -/
  | empty
  /-- Its size does not fit 32 bits; a size that fits no address counts as the last address. -/
  | tooLarge (size : Nat)
  /-- It names a core that the program does not have. -/
  | core (core cores : UInt32)
  /-- On the chip, its base group does not start on a page. -/
  | misaligned (base : UInt64)
  /-- On the chip, an output is held by several cores. -/
  | spread (space : AddressSpace) (cores : UInt32)
  /-- Off the chip, its base group does not start at 0. -/
  | baseOffChip
  /-- It ends past the 32-bit addresses of the device. -/
  | range
  /-- A fence is neither 0 nor 1. -/
  | fence (point : FencePoint) (value : UInt32)
  /-- The host may read or keep only part of what it has to take whole. -/
  | partialTransfer
  /-- It starts in the reserved part of the scratch memory. -/
  | reserved (start limit : Nat)
  /-- The memory is too small for it. -/
  | capacity (used : Nat) (space : AddressSpace) (capacity : Nat)
  /-- There is no doorbell left for it. -/
  | noDoorbell
  /-- The host may transfer part of a buffer that has not exactly one dimension. -/
  | partialShape (dims : Nat)
  /-- Its size fits no address. -/
  | sizeOverflow
  deriving DecidableEq, Repr

/-- The wording of a buffer's fault. -/
def BufferFault.message : BufferFault → String
  | empty => "buffer has no elements"
  | tooLarge size => s!"{size} bytes exceeds 4 GiB"
  | core number cores => s!"core {number} outside the {cores} cores of the program"
  | misaligned base => s!"base group offset {hex base.toNat} is not {pageSize}-byte aligned"
  | spread space cores =>
    s!"{space.name} outputs must live on a single core, mask is {hex cores.toNat}"
  | baseOffChip => "DDR buffers cannot use a base group offset"
  | range => "ends past the 32-bit device address range"
  | fence point value => s!"{point.key} must be 0 or 1, got {value}"
  | partialTransfer => "only inputs may allow partial transfers"
  | reserved start limit =>
    s!"starts at {hex start}, inside the first {hex limit} bytes of L2TCM "
      ++ "reserved for doorbells and UDMA"
  | capacity used space limit => s!"needs {used} bytes of {space.name}, capacity is {limit}"
  | noDoorbell => s!"no doorbell left, {exitSlot} in use"
  | partialShape dims => s!"partial buffers must have exactly one dimension, found {dims}"
  | sizeOverflow => "size overflows"

/-- What has to fit 16 or 32 bits in an artifact. -/
inductive Quantity
  | bufferOffset
  | doorbellSlot
  | coreMask
  | dummyOffset
  | hardwareMajor
  | hardwareMinor
  | coreCount
  | vtcmSize
  | l2tcmSize
  | constantsSize
  deriving DecidableEq, Repr

/-- The name of a quantity in messages. -/
def Quantity.name : Quantity → String
  | bufferOffset => "buffer offset"
  | doorbellSlot => "doorbell slot"
  | coreMask => "core mask"
  | dummyOffset => "dummy descriptor offset"
  | hardwareMajor => "hwVersionMajor"
  | hardwareMinor => "hwVersionMinor"
  | coreCount => "numNSPs"
  | vtcmSize => "VTCM size"
  | l2tcmSize => "L2TCM size"
  | constantsSize => "constants size"

/-- Why the hardware cannot run what a configuration describes. -/
inductive ConfigFault
  /-- The hardware has another version. -/
  | hardware (major minor : UInt32)
  /-- There are no cores, or more than the card has. -/
  | coreCount (cores : UInt32)
  /-- A core has fewer threads than asked for. -/
  | threadCount (threads matrixThreads : UInt32)
  /-- More matrix threads are asked for than threads. -/
  | matrixThreads (matrixThreads : UInt32) (threads : Nat)
  /-- A buffer cannot be had. -/
  | buffer (name : BufferName) (fault : BufferFault)
  /-- The doorbell window does not fit a multicast entry. -/
  | doorbellWindow
  /-- A multicast group is asked for off the chip. -/
  | groupOffChip
  /-- Every multicast group is in use. -/
  | groupsExhausted
  /-- The buffers need more doorbells than the firmware polls. -/
  | doorbells (buffers : Nat)
  /-- Every sequence number of a transfer is in use. -/
  | transferNumbers
  /-- A quantity does not fit its place. -/
  | width (quantity : Quantity) (value bits : Nat)
  deriving DecidableEq, Repr

/-- The wording of a configuration's fault. -/
def ConfigFault.message : ConfigFault → String
  | hardware major minor =>
    s!"hardware version {major}.{minor} not supported, "
      ++ s!"only {supportedHardware.1}.{supportedHardware.2}"
  | coreCount cores => s!"numNSPs {cores} outside 1..={maxCores}"
  | threadCount threads matrix =>
    s!"numThreads {threads} with {matrix} HMX threads exceeds the {maxThreads} threads of a core"
  | matrixThreads matrix threads =>
    s!"{matrix} HMX threads exceed {threads} threads"
  | buffer name fault => s!"{name.text}: {fault.message}"
  | doorbellWindow => "doorbell window exceeds 4 GiB"
  | groupOffChip => "DDR buffers are not multicast"
  | groupsExhausted => "multicast group ids exhausted"
  | doorbells buffers =>
    s!"{buffers} buffers need {buffers + 1} doorbells, "
      ++ s!"firmware supports {exitSlot} buffer doorbells plus exit"
  | transferNumbers => "more DMA requests than sequence numbers"
  | width quantity value bits => s!"{quantity.name} {value} exceeds {bits} bits"

/-- A quantity that has to fit 16 bits. -/
def narrow16 (quantity : Quantity) (value : Nat) : Except ConfigFault UInt16 :=
  match fit16? value with
  | some w => .ok w
  | none => .error (.width quantity value 16)

/-- A quantity that has to fit 32 bits. -/
def narrow32 (quantity : Quantity) (value : Nat) : Except ConfigFault UInt32 :=
  match fit32? value with
  | some w => .ok w
  | none => .error (.width quantity value 32)

/-- Why a linked binary has no entry point. -/
inductive EntryPointFault
  /-- It is no ELF image. -/
  | notElf
  /-- It has no start routine of that name. -/
  | noStart (symbol : String)
  deriving DecidableEq, Repr

/-- The wording of an entry point's fault. -/
def EntryPointFault.message : EntryPointFault → String
  | notElf => "failed to parse ELF"
  | noStart symbol => "no function symbol " ++ symbol

/-- A fault on the way from a configuration to a package. -/
inductive PlanError
  /-- The hardware cannot run what is described. -/
  | config (fault : ConfigFault)
  /-- A text is not the JSON of what it should be. -/
  | json
  /-- The binary has no entry point. -/
  | entryPoint (fault : EntryPointFault)
  /-- An artifact cannot be built, written or read. -/
  | artifact (fault : FormatError)
  /-- A file cannot be read or written. -/
  | file (fault : FileFault)
  deriving DecidableEq, Repr

namespace PlanError

/-- The wording of an error. -/
def message : PlanError → String
  | config fault => "Invalid program configuration: " ++ fault.message
  | json => "Failed to parse configuration"
  | entryPoint fault => "Cannot resolve entry point: " ++ fault.message
  | artifact fault => "Artifact error: " ++ fault.message
  | file fault => "I/O error: " ++ fault.message

/-- Whether the configuration is to blame. -/
def isConfig : PlanError → Bool
  | config _ | json => true
  | _ => false

end PlanError

instance : MonadLift (Except ConfigFault) (Except PlanError) where
  monadLift r := r.mapError .config

instance : MonadLift (Except FormatError) (Except PlanError) where
  monadLift r := r.mapError .artifact

end ComputePlanner
