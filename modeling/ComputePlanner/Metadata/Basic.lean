import ComputePlanner.Bytes.LittleEndian

/-! # The metadata document
Everything the runtime needs to load and drive a program: memory sizes, multicast tables, the
transfers with the semaphore and doorbell operations that accompany them, the threads, and the
context block that the program expects.

Main definitions:
* **`Transfer`** — one transfer between host and device, with its handshake;
* **`MulticastEntry`**, **`HostEntry`** — a multicast group as a core and as the host sees it;
* **`Metadata`** — the document. -/

namespace ComputePlanner

/-! ## Operations around a transfer -/

/-- What an operation does to a semaphore. -/
inductive SemaphoreAction
  /-- Nothing. -/
  | nop
  /-- Sets it. -/
  | init
  /-- Adds to it. -/
  | inc
  /-- Subtracts from it. -/
  | dec
  /-- Blocks until it equals the value. -/
  | waitEq
  /-- Blocks until it is at least the value. -/
  | waitGe
  /-- Blocks until it is not zero, then subtracts one. -/
  | waitDec
  deriving DecidableEq, Repr, Inhabited

/-- Whether an operation runs before its transfer or after it. -/
inductive SyncPoint
  | pre
  | post
  deriving DecidableEq, Repr, Inhabited

/-- An operation on a semaphore that accompanies a transfer. -/
structure SemaphoreOp where
  action : SemaphoreAction
  /-- The semaphore's number. -/
  semaphore : UInt16
  value : UInt16
  point : SyncPoint
  /-- Waits until earlier transfers have landed. -/
  inFence : Bool
  /-- Holds later transfers back until it is done. -/
  outFence : Bool
  deriving DecidableEq, Repr, Inhabited

/-- How much of a slot a doorbell write covers. -/
inductive DoorbellWidth
  | bits8
  | bits16
  | bits32
  deriving DecidableEq, Repr, Inhabited

/-- A doorbell write that follows a transfer. -/
structure DoorbellOp where
  width : DoorbellWidth
  /-- The multicast group it goes through. -/
  group : UInt16
  /-- Where in the group it lands. -/
  offset : UInt64
  data : UInt32
  deriving DecidableEq, Repr, Inhabited

/-- The device memory of a transfer. -/
inductive DeviceSpace
  /-- Memory of the cores, through a multicast group. -/
  | multicast
  /-- Shared memory that is allocated once. -/
  | ddr
  /-- Shared memory that is allocated for each activation. -/
  | dynamicDdr
  deriving DecidableEq, Repr, Inhabited

/-- The direction of a transfer, seen from the device. -/
inductive Direction
  | inward
  | outward
  deriving DecidableEq, Repr, Inhabited

/-- A transfer between host and device, with its handshake. -/
structure Transfer where
  /-- Its place in the sequence. -/
  number : UInt16
  hostOffset : UInt64
  space : DeviceSpace
  deviceOffset : UInt64
  size : UInt32
  direction : Direction
  /-- The port it is queued on. -/
  port : UInt16
  /-- The multicast group, 0 off the chip. -/
  group : UInt16
  semaphores : List SemaphoreOp
  doorbells : List DoorbellOp
  /-- The transaction it belongs to, 0 for none. -/
  transaction : UInt32
  deriving DecidableEq, Repr, Inhabited

/-! ## Tables -/

/-- The memory of a core that a multicast group covers. -/
inductive CoreMemory
  | l2tcm
  | vtcm
  deriving DecidableEq, Repr, Inhabited

/-- A multicast group as one core sees it. -/
structure MulticastEntry where
  /-- Whether the group is resolved when the program runs. -/
  dynamic : Bool
  /-- The cores a write reaches. -/
  mask : UInt32
  /-- Bytes covered on this core, 0 if it is not a member. -/
  size : UInt32
  memory : CoreMemory
  /-- Where the group starts in that memory. -/
  base : UInt64
  deriving DecidableEq, Repr, Inhabited

/-- A multicast group as the host sees it. -/
structure HostEntry where
  /-- The cores a write reaches. -/
  mask : UInt32
  /-- Bytes covered. -/
  size : UInt32
  deriving DecidableEq, Repr, Inhabited

/-- A thread that the runtime starts on every core. -/
structure Thread where
  /-- Where it starts. -/
  entry : UInt64
  /-- The units it drives. -/
  units : UInt8
  deriving DecidableEq, Repr, Inhabited

/-- The unit bit of a vector thread. -/
def vectorUnit : UInt8 := 1

/-- The unit bit of a matrix thread. -/
def matrixUnit : UInt8 := 2

/-- The constants as a set of cores sees them. -/
structure ConstantMapping where
  cores : UInt32
  /-- Where the mapping starts in the constants. -/
  base : UInt64
  size : UInt32
  deriving DecidableEq, Repr, Inhabited

/-- What a port connects to. -/
inductive PortType
  /-- The host's input and output. -/
  | user
  /-- Another device. -/
  | peer
  deriving DecidableEq, Repr, Inhabited

/-- A registered port. -/
structure Port where
  number : UInt16
  type : PortType
  deriving DecidableEq, Repr, Inhabited

/-- A run of the init image that has to be copied. -/
structure Region where
  /-- Its first byte. -/
  start : UInt64
  /-- The byte behind its last. -/
  stop : UInt64
  /-- Its length. -/
  size : UInt64
  deriving DecidableEq, Repr, Inhabited

/-- What becomes of the network's heap on deactivation. -/
inductive HeapBehavior
  | free
  | retain
  deriving DecidableEq, Repr, Inhabited

/-- Whether constants stay loaded between activations. -/
inductive ConstantsCaching
  | disabled
  | enabled
  deriving DecidableEq, Repr, Inhabited

/-- A slot of the context block that the program uses. -/
structure ContextField where
  name : String
  size : UInt32
  offset : UInt32
  /-- Whether the program cannot run without it. -/
  required : Bool
  deriving DecidableEq, Repr, Inhabited

/-- The context block that the program expects. -/
structure ContextContract where
  /-- Bytes of the block. -/
  size : UInt32
  fields : List ContextField
  deriving DecidableEq, Repr, Inhabited

/-- Memory that the host provides. -/
structure HostMemory where
  size : UInt64
  /-- Whether its errors are corrected. -/
  ecc : Bool
  deriving DecidableEq, Repr, Inhabited

/-! ## The document -/

/-- The metadata of a program. -/
structure Metadata where
  /-- Version of the format. -/
  major : UInt16
  minor : UInt16
  /-- Major version of the context block. -/
  contextMajor : UInt16
  hardwareMajor : UInt16
  hardwareMinor : UInt16
  /-- Where the exit doorbell lies in a core's scratch memory. -/
  exitDoorbell : UInt64
  name : String
  /-- Cores used. -/
  cores : UInt16
  /-- Vector memory per core. -/
  vtcmSize : UInt32
  /-- Scratch memory per core. -/
  l2tcmSize : UInt32
  /-- Semaphores declared. -/
  semaphoreCount : UInt16
  semaphoreInit : List UInt32
  /-- Length of the init image of the scratch memory. -/
  initSize : UInt32
  initImage : Bytes
  /-- The runs of the init image that have to be copied. -/
  initRegions : List Region
  staticDdr : HostMemory
  dynamicDdr : HostMemory
  staticConstants : HostMemory
  dynamicConstants : HostMemory
  /-- Whether vector memory must be one page. -/
  singleVtcmPage : Bool
  /-- The multicast table of each core. -/
  coreTables : List (List MulticastEntry)
  hostTable : List HostEntry
  transfers : List Transfer
  threads : List Thread
  constantMappings : List ConstantMapping
  ports : List Port
  heapSize : UInt64
  heapBehavior : HeapBehavior
  constantsCaching : ConstantsCaching
  /-- Whether vector threads compute in floating point. -/
  vectorFloat : Bool
  /-- Whether matrix threads compute in floating point. -/
  matrixFloat : Bool
  /-- Fields and features that a reader must know. -/
  requiredFields : List String
  /-- Twice the length of the record, for older readers. -/
  rawLength : UInt64
  context : ContextContract
  deriving DecidableEq, Repr, Inhabited

namespace Metadata

/-- Padding for alignment that the runtime adds to each of the four host memories. -/
def hostMemoryPadding : UInt64 := 2048

/-- Bytes the host must provide for an activation. -/
def totalHostMemory (md : Metadata) : UInt64 :=
  md.staticDdr.size + md.staticConstants.size + md.dynamicDdr.size + md.dynamicConstants.size
    + 4 * hostMemoryPadding

/-- Whether a reader must know `name`. -/
def requires (md : Metadata) (name : String) : Bool := md.requiredFields.contains name

/-- A document that holds nothing. -/
def empty : Metadata where
  major := 0
  minor := 0
  contextMajor := 0
  hardwareMajor := 0
  hardwareMinor := 0
  exitDoorbell := 0
  name := ""
  cores := 0
  vtcmSize := 0
  l2tcmSize := 0
  semaphoreCount := 0
  semaphoreInit := []
  initSize := 0
  initImage := []
  initRegions := []
  staticDdr := ⟨0, false⟩
  dynamicDdr := ⟨0, false⟩
  staticConstants := ⟨0, false⟩
  dynamicConstants := ⟨0, false⟩
  singleVtcmPage := false
  coreTables := []
  hostTable := []
  transfers := []
  threads := []
  constantMappings := []
  ports := []
  heapSize := 0
  heapBehavior := .free
  constantsCaching := .disabled
  vectorFloat := false
  matrixFloat := false
  requiredFields := []
  rawLength := 0
  context := ⟨0, []⟩

end Metadata

end ComputePlanner
