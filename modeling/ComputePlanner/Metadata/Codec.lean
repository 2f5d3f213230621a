import ComputePlanner.Metadata.Codes
import ComputePlanner.Metadata.Schema
import ComputePlanner.Record.Access

/-! # The metadata document as a record
**`Metadata.toRecord`** lays a document out as the record of the metadata schema, all fields in the
order of their tags; **`Metadata.ofRecord`** reads it back. Fields that a record leaves out have
their zero, empty or default value. On a record that follows the schema, the only way to fail is an
enumerated field with a code that is not defined. -/

namespace ComputePlanner

/-- A read of a record whose failure is a fault of the artifact. -/
instance : MonadLift (Except RecordFault) (Except FormatError) where
  monadLift r := r.mapError .record

/-! ## Writing -/

/-- The record of a run. -/
def Region.toRecord (r : Region) : Record := [⟨1, .u64 r.start⟩, ⟨2, .u64 r.stop⟩, ⟨3, .u64 r.size⟩]

/-- The record of a group as a core sees it. -/
def MulticastEntry.toRecord (e : MulticastEntry) : Record :=
  [⟨1, .bool e.dynamic⟩, ⟨2, .u32 e.mask⟩, ⟨3, .u32 e.size⟩, ⟨4, .u8 e.memory.code⟩,
    ⟨5, .u64 e.base⟩]

/-- The record of a group as the host sees it. -/
def HostEntry.toRecord (e : HostEntry) : Record := [⟨1, .u32 e.mask⟩, ⟨2, .u32 e.size⟩]

/-- The record of a semaphore operation. -/
def SemaphoreOp.toRecord (op : SemaphoreOp) : Record :=
  [⟨1, .u8 op.action.code⟩, ⟨2, .u16 op.semaphore⟩, ⟨3, .u16 op.value⟩, ⟨4, .u8 op.point.code⟩,
    ⟨5, .bool op.inFence⟩, ⟨6, .bool op.outFence⟩]

/-- The record of a doorbell write. -/
def DoorbellOp.toRecord (op : DoorbellOp) : Record :=
  [⟨1, .u8 op.width.code⟩, ⟨2, .u16 op.group⟩, ⟨3, .u64 op.offset⟩, ⟨4, .u32 op.data⟩]

/-- The record of a transfer. -/
def Transfer.toRecord (t : Transfer) : Record :=
  [⟨1, .u16 t.number⟩, ⟨2, .u64 t.hostOffset⟩, ⟨3, .u8 t.space.code⟩, ⟨4, .u64 t.deviceOffset⟩,
    ⟨5, .u32 t.size⟩, ⟨6, .u8 t.direction.code⟩, ⟨7, .u16 t.port⟩, ⟨8, .u16 t.group⟩,
    ⟨9, .records (t.semaphores.map (·.toRecord))⟩, ⟨10, .records (t.doorbells.map (·.toRecord))⟩,
    ⟨11, .u32 t.transaction⟩]

/-- The record of a thread. -/
def Thread.toRecord (t : Thread) : Record := [⟨1, .u64 t.entry⟩, ⟨2, .u8 t.units⟩]

/-- The record of a mapping. -/
def ConstantMapping.toRecord (m : ConstantMapping) : Record :=
  [⟨1, .u32 m.cores⟩, ⟨2, .u64 m.base⟩, ⟨3, .u32 m.size⟩]

/-- The record of a port. -/
def Port.toRecord (p : Port) : Record := [⟨1, .u16 p.number⟩, ⟨2, .u8 p.type.code⟩]

/-- The record of a slot. -/
def ContextField.toRecord (f : ContextField) : Record :=
  [⟨1, .text f.name⟩, ⟨2, .u32 f.size⟩, ⟨3, .u32 f.offset⟩, ⟨4, .bool f.required⟩]

/-- The record of the context block that a program expects. -/
def ContextContract.toRecord (c : ContextContract) : Record :=
  [⟨1, .u32 c.size⟩, ⟨2, .records (c.fields.map (·.toRecord))⟩]

namespace Metadata

/-- The root record of a document. -/
def toRecord (md : Metadata) : Record :=
  [⟨1, .u16 md.major⟩, ⟨2, .u16 md.minor⟩, ⟨3, .u16 md.contextMajor⟩, ⟨4, .u16 md.hardwareMajor⟩,
    ⟨5, .u16 md.hardwareMinor⟩, ⟨6, .u64 md.exitDoorbell⟩, ⟨7, .text md.name⟩, ⟨8, .u16 md.cores⟩,
    ⟨9, .u32 md.vtcmSize⟩, ⟨10, .u32 md.l2tcmSize⟩, ⟨11, .u16 md.semaphoreCount⟩,
    ⟨12, .words md.semaphoreInit⟩, ⟨13, .u32 md.initSize⟩, ⟨14, .bytes md.initImage⟩,
    ⟨15, .records (md.initRegions.map (·.toRecord))⟩,
    ⟨16, .u64 md.staticDdr.size⟩, ⟨17, .bool md.staticDdr.ecc⟩,
    ⟨18, .u64 md.dynamicDdr.size⟩, ⟨19, .bool md.dynamicDdr.ecc⟩,
    ⟨20, .u64 md.staticConstants.size⟩, ⟨21, .bool md.staticConstants.ecc⟩,
    ⟨22, .u64 md.dynamicConstants.size⟩, ⟨23, .bool md.dynamicConstants.ecc⟩,
    ⟨24, .bool md.singleVtcmPage⟩,
    ⟨25, .records (md.coreTables.map fun t => [⟨1, .records (t.map (·.toRecord))⟩])⟩,
    ⟨26, .record [⟨1, .records (md.hostTable.map (·.toRecord))⟩]⟩,
    ⟨27, .records (md.transfers.map (·.toRecord))⟩, ⟨28, .records (md.threads.map (·.toRecord))⟩,
    ⟨29, .records (md.constantMappings.map (·.toRecord))⟩,
    ⟨30, .records (md.ports.map (·.toRecord))⟩, ⟨31, .u64 md.heapSize⟩,
    ⟨32, .u8 md.heapBehavior.code⟩, ⟨33, .record [⟨1, .u8 md.constantsCaching.code⟩]⟩,
    ⟨34, .bool md.vectorFloat⟩, ⟨35, .bool md.matrixFloat⟩, ⟨36, .texts md.requiredFields⟩,
    ⟨37, .u64 md.rawLength⟩, ⟨38, .record md.context.toRecord⟩]

/-- The written form of the root record. -/
def encode (md : Metadata) : Bytes := md.toRecord.encode

end Metadata

/-! ## Reading -/

/-- The value of a code, or the fault of a field with a code that is not defined. -/
def defined (field : String) (ofCode? : UInt8 → Option α) (code : UInt8) : Except FormatError α :=
  match ofCode? code with
  | some a => .ok a
  | none => .error (.undefinedValue field code)

/-- Reads a run. -/
def Region.ofRecord (r : Record) : Except FormatError Region := do
  return { start := ← r.u64 1, stop := ← r.u64 2, size := ← r.u64 3 }

/-- Reads a group as a core sees it. -/
def MulticastEntry.ofRecord (r : Record) : Except FormatError MulticastEntry := do
  return {
    dynamic := ← r.bool 1
    mask := ← r.u32 2
    size := ← r.u32 3
    memory := ← defined "addrSpace" CoreMemory.ofCode? (← r.u8 4)
    base := ← r.u64 5 }

/-- Reads the groups that a core sees. -/
def coreTableOfRecord (r : Record) : Except FormatError (List MulticastEntry) := do
  (← r.records 1).mapM MulticastEntry.ofRecord

/-- Reads a group as the host sees it. -/
def HostEntry.ofRecord (r : Record) : Except FormatError HostEntry := do
  return { mask := ← r.u32 1, size := ← r.u32 2 }

/-- Reads the groups that the host sees. -/
def hostTableOfRecord : Option Record → Except FormatError (List HostEntry)
  | some r => do (← r.records 1).mapM HostEntry.ofRecord
  | none => .ok []

/-- Reads a semaphore operation. -/
def SemaphoreOp.ofRecord (r : Record) : Except FormatError SemaphoreOp := do
  return {
    action := ← defined "semOp" SemaphoreAction.ofCode? (← r.u8 1)
    semaphore := ← r.u16 2
    value := ← r.u16 3
    point := SyncPoint.ofCode (← r.u8 4)
    inFence := ← r.bool 5
    outFence := ← r.bool 6 }

/-- Reads a doorbell write. -/
def DoorbellOp.ofRecord (r : Record) : Except FormatError DoorbellOp := do
  return {
    width := ← defined "opSize" DoorbellWidth.ofCode? (← r.u8 1)
    group := ← r.u16 2
    offset := ← r.u64 3
    data := ← r.u32 4 }

/-- Reads a transfer. -/
def Transfer.ofRecord (r : Record) : Except FormatError Transfer := do
  let semaphores ← (← r.records 9).mapM SemaphoreOp.ofRecord
  let doorbells ← (← r.records 10).mapM DoorbellOp.ofRecord
  return {
    number := ← r.u16 1
    hostOffset := ← r.u64 2
    space := ← defined "devAddrSpace" DeviceSpace.ofCode? (← r.u8 3)
    deviceOffset := ← r.u64 4
    size := ← r.u32 5
    direction := ← defined "inOut" Direction.ofCode? (← r.u8 6)
    port := ← r.u16 7
    group := ← r.u16 8
    semaphores
    doorbells
    transaction := ← r.u32 11 }

/-- Reads a thread. -/
def Thread.ofRecord (r : Record) : Except FormatError Thread := do
  return { entry := ← r.u64 1, units := ← r.u8 2 }

/-- Reads a mapping. -/
def ConstantMapping.ofRecord (r : Record) : Except FormatError ConstantMapping := do
  return { cores := ← r.u32 1, base := ← r.u64 2, size := ← r.u32 3 }

/-- Reads a port. -/
def Port.ofRecord (r : Record) : Except FormatError Port := do
  return { number := ← r.u16 1, type := ← defined "portType" PortType.ofCode? (← r.u8 2) }

/-- Reads the caching of constants. -/
def cachingOfRecord : Option Record → Except FormatError ConstantsCaching
  | some r => do defined "Constants" ConstantsCaching.ofCode? (← r.u8 1)
  | none => .ok .disabled

/-- Reads a slot. -/
def ContextField.ofRecord (r : Record) : Except FormatError ContextField := do
  return { name := ← r.text 1, size := ← r.u32 2, offset := ← r.u32 3, required := ← r.bool 4 }

/-- Reads the context block that a program expects. -/
def ContextContract.ofRecord (r : Record) : Except FormatError ContextContract := do
  let fields ← (← r.records 2).mapM ContextField.ofRecord
  return { size := ← r.u32 1, fields }

/-- Reads the context block of a document that may have none. -/
def contextOfRecord : Option Record → Except FormatError ContextContract
  | some r => ContextContract.ofRecord r
  | none => .ok ⟨0, []⟩

/-- Reads a host memory: its size and its flag. -/
def hostMemoryOfRecord (r : Record) (size ecc : UInt16) : Except FormatError HostMemory := do
  return { size := ← r.u64 size, ecc := ← r.bool ecc }

namespace Metadata

/-- The format version of a root record. -/
def versionOfRecord (r : Record) : Except FormatError (UInt16 × UInt16) := do
  return (← r.u16 1, ← r.u16 2)

/-- Reads a document from its root record. -/
def ofRecord (r : Record) : Except FormatError Metadata := do
  let initRegions ← (← r.records 15).mapM Region.ofRecord
  let coreTables ← (← r.records 25).mapM coreTableOfRecord
  let hostTable ← hostTableOfRecord (← r.record? 26)
  let transfers ← (← r.records 27).mapM Transfer.ofRecord
  let threads ← (← r.records 28).mapM Thread.ofRecord
  let constantMappings ← (← r.records 29).mapM ConstantMapping.ofRecord
  let ports ← (← r.records 30).mapM Port.ofRecord
  let constantsCaching ← cachingOfRecord (← r.record? 33)
  let context ← contextOfRecord (← r.record? 38)
  return {
    major := ← r.u16 1
    minor := ← r.u16 2
    contextMajor := ← r.u16 3
    hardwareMajor := ← r.u16 4
    hardwareMinor := ← r.u16 5
    exitDoorbell := ← r.u64 6
    name := ← r.text 7
    cores := ← r.u16 8
    vtcmSize := ← r.u32 9
    l2tcmSize := ← r.u32 10
    semaphoreCount := ← r.u16 11
    semaphoreInit := ← r.words 12
    initSize := ← r.u32 13
    initImage := ← r.bytes 14
    initRegions
    staticDdr := ← hostMemoryOfRecord r 16 17
    dynamicDdr := ← hostMemoryOfRecord r 18 19
    staticConstants := ← hostMemoryOfRecord r 20 21
    dynamicConstants := ← hostMemoryOfRecord r 22 23
    singleVtcmPage := ← r.bool 24
    coreTables
    hostTable
    transfers
    threads
    constantMappings
    ports
    heapSize := ← r.u64 31
    heapBehavior := ← defined "networkHeapBehavior" HeapBehavior.ofCode? (← r.u8 32)
    constantsCaching
    vectorFloat := ← r.bool 34
    matrixFloat := ← r.bool 35
    requiredFields := ← r.texts 36
    rawLength := ← r.u64 37
    context }

end Metadata

end ComputePlanner
