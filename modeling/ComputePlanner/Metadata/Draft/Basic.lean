import ComputePlanner.Bytes.Word
import ComputePlanner.Hardware.ContextBlock
import ComputePlanner.InitImage
import ComputePlanner.Metadata.Read

/-! # Writing a metadata document
A **`Draft`** is a document being written: it is set up by the operations below and turned into a
**`Document`** by `finish`, which derives what follows from the rest and encodes it. An operation
that refuses its entry leaves the draft as it was.

A setting that changes what a reader has to understand also **requires** its field, so that an older
reader refuses the document instead of misreading it.

Only where a write into the init image ends is a sum that is not checked. The operations are those of a
checked build; `Draft.writeInitIn` has the write of either. -/

namespace ComputePlanner

/-! ## Writing into the init image -/

/-- An image cut or filled up with zeros to `length` bytes. -/
def resizeImage (image : Bytes) (length : Nat) : Bytes :=
  image.take length ++ List.replicate (length - image.length) 0

/-- An image with `data` in place of what it held from `start` on. -/
def overwrite (image : Bytes) (start : Nat) (data : Bytes) : Bytes :=
  image.take start ++ data ++ image.drop (start + data.length)

/-- Addresses of the image's address space. -/
def addressSpaceSize : Nat := UInt64.size

/-- Writes `data` into an image at `offset`. What the build makes of the end of the write is compared
with the length of the image. A write that passes is stopped if the range to copy to is not as long as
the data. -/
def writeImage (build : Build) (image : Bytes) (offset : UInt64) (data : Bytes) :
    Except FormatError Bytes :=
  match build.sum? (offset.toNat + data.length) with
  | none => .error (.wrappedWrite data.length offset.toNat)
  | some stop =>
    if image.length < stop.toNat then
      .error (.entry (.initWrite data.length offset.toNat image.length))
    else if stop.toNat = offset.toNat + data.length then .ok (overwrite image offset.toNat data)
    else .error (.wrappedWrite data.length offset.toNat)

/-- A program that relies on every slot of the context block. -/
def defaultContext : ContextContract where
  size := contextBlockSize
  fields := contextSlots.map fun slot => ⟨slot.name, slot.size, slot.offset, true⟩

/-- A document being written. -/
structure Draft where
  /-- What has been written so far. -/
  document : Metadata
  /-- Whether a context block has been chosen. -/
  contextChosen : Bool
  deriving DecidableEq, Repr

/-- A finished document and its written form. -/
structure Document where
  metadata : Metadata
  bytes : Bytes
  deriving DecidableEq, Repr

namespace Draft

/-- The exit doorbell's place before it is set; no doorbell lies there. -/
def exitDoorbellUnset : UInt64 := 0xFFFFFFFFFFFFFFFF

/-- The name of a network that is given none. -/
def defaultName : String := "unnamed"

/-- A draft for a version of the hardware. -/
def start (hardwareMajor hardwareMinor : UInt16) : Draft where
  document := { Metadata.empty with
    major := metadataMajor
    minor := metadataMinor
    contextMajor
    hardwareMajor
    hardwareMinor
    exitDoorbell := exitDoorbellUnset }
  contextChosen := false

/-- Changes the document. -/
def edit (d : Draft) (f : Metadata → Metadata) : Draft := { d with document := f d.document }

/-! ## Required fields -/

/-- Requires a field, once. -/
def require (d : Draft) (name : String) : Draft :=
  if d.document.requires name then d
  else d.edit fun md => { md with requiredFields := md.requiredFields ++ [name] }

/-- Requires a field by a name that must be known. -/
def addRequirement (d : Draft) (name : String) : Except FormatError Draft :=
  if isKnownField name then .ok (d.require name) else .error (.unknownField name)

/-! ## Settings -/

/-- Sets the number of cores and clears their multicast tables. -/
def setCores (d : Draft) (cores : UInt16) : Draft :=
  d.edit fun md => { md with cores, coreTables := List.replicate cores.toNat [] }

/-- Sets the vector memory of each core. -/
def setVtcmSize (d : Draft) (vtcmSize : UInt32) : Draft := d.edit fun md => { md with vtcmSize }

/-- Sets the scratch memory of each core. -/
def setL2tcmSize (d : Draft) (l2tcmSize : UInt32) : Draft := d.edit fun md => { md with l2tcmSize }

/-- Sets the network's name. -/
def setName (d : Draft) (name : String) : Draft := d.edit fun md => { md with name }

/-- Declares semaphores, all of them zero. -/
def declareSemaphores (d : Draft) (count : UInt16) : Draft :=
  d.edit fun md =>
    { md with semaphoreCount := count, semaphoreInit := List.replicate count.toNat 0 }

/-- Gives a semaphore its first value. -/
def initSemaphore (d : Draft) (semaphore : UInt16) (value : UInt32) : Except FormatError Draft :=
  if semaphore.toNat < d.document.semaphoreInit.length then
    .ok (d.edit fun md =>
      { md with semaphoreInit := md.semaphoreInit.set semaphore.toNat value })
  else .error (.entry (.semaphore semaphore d.document.semaphoreCount))

/-- Sets the length of the init image. -/
def resizeInit (d : Draft) (length : Nat) : Draft :=
  d.edit fun md => { md with initImage := resizeImage md.initImage length }

/-- Writes into the init image. -/
def writeInitIn (build : Build) (d : Draft) (offset : UInt64) (data : Bytes) :
    Except FormatError Draft := do
  let initImage ← writeImage build d.document.initImage offset data
  return d.edit fun md => { md with initImage }

/-- Writes into the init image, in a checked build. -/
def writeInit (d : Draft) (offset : UInt64) (data : Bytes) : Except FormatError Draft :=
  d.writeInitIn .checked offset data

/-- Writes a byte into the init image. -/
def writeInitByte (d : Draft) (offset : UInt64) (value : UInt8) : Except FormatError Draft :=
  d.writeInit offset [value]

/-- Writes a word into the init image. -/
def writeInitWord (d : Draft) (offset : UInt64) (value : UInt32) : Except FormatError Draft :=
  d.writeInit offset (word32 value)

/-- Sets the shared memory that is allocated once. -/
def setStaticDdr (d : Draft) (staticDdr : HostMemory) : Draft :=
  d.edit fun md => { md with staticDdr }

/-- Sets the shared memory that is allocated for each activation. -/
def setDynamicDdr (d : Draft) (dynamicDdr : HostMemory) : Draft :=
  d.edit fun md => { md with dynamicDdr }

/-- Sets the constants that are loaded once. -/
def setStaticConstants (d : Draft) (staticConstants : HostMemory) : Draft :=
  d.edit fun md => { md with staticConstants }

/-- Sets the constants that are loaded for each activation. -/
def setDynamicConstants (d : Draft) (dynamicConstants : HostMemory) : Draft :=
  d.edit fun md => { md with dynamicConstants }

/-- Sets whether vector memory must be one page. -/
def setSingleVtcmPage (d : Draft) (singleVtcmPage : Bool) : Draft :=
  d.edit fun md => { md with singleVtcmPage }

/-- Sets the size of the heap. -/
def setHeapSize (d : Draft) (heapSize : UInt64) : Draft := d.edit fun md => { md with heapSize }

/-- Sets what becomes of the heap, which readers must know from then on. -/
def setHeapBehavior (d : Draft) (heapBehavior : HeapBehavior) : Draft :=
  (d.edit fun md => { md with heapBehavior }).require Requirement.heapBehavior

/-- Sets whether constants stay loaded, which readers must know from then on. -/
def setConstantsCaching (d : Draft) (constantsCaching : ConstantsCaching) : Draft :=
  (d.edit fun md => { md with constantsCaching }).require Requirement.constantsCaching

/-- Sets which threads compute in floating point. -/
def setFloatUse (d : Draft) (vectorFloat matrixFloat : Bool) : Draft :=
  d.edit fun md => { md with vectorFloat, matrixFloat }

/-- Sets where the exit doorbell lies. -/
def setExitDoorbell (d : Draft) (exitDoorbell : UInt64) : Draft :=
  d.edit fun md => { md with exitDoorbell }

/-- Chooses the context block that the program expects. -/
def setContext (d : Draft) (context : ContextContract) : Draft :=
  { d.edit fun md => { md with context } with contextChosen := true }.require
    Requirement.contextContract

/-! ## Entries -/

/-- Registers a port. -/
def addPort (d : Draft) (port : Port) : Draft :=
  d.edit fun md => { md with ports := md.ports ++ [port] }

/-- Whether a transfer moves bytes to or from memory that is allocated for each activation. -/
def usesDynamicDdr (t : Transfer) : Bool := t.space == .dynamicDdr && 0 < t.size

/-- Adds a transfer, whose semaphores must be declared. -/
def addTransfer (d : Draft) (t : Transfer) : Except FormatError Draft :=
  match t.semaphores.find? fun op => d.document.semaphoreCount ≤ op.semaphore with
  | some op =>
    .error (.entry (.transferSemaphore t.number op.semaphore d.document.semaphoreCount))
  | none =>
    let d := if usesDynamicDdr t then d.require Requirement.dynamicDdr else d
    .ok (d.edit fun md => { md with transfers := md.transfers ++ [t] })

/-- Adds an entry to the multicast table of a core. -/
def addCoreEntry (d : Draft) (core : UInt16) (e : MulticastEntry) : Except FormatError Draft :=
  if core.toNat < d.document.coreTables.length then
    .ok (d.edit fun md =>
      { md with coreTables := md.coreTables.modify core.toNat (· ++ [e]) })
  else .error (.entry (.core core d.document.cores))

/-- Adds an entry to the multicast table of the host. -/
def addHostEntry (d : Draft) (e : HostEntry) : Draft :=
  d.edit fun md => { md with hostTable := md.hostTable ++ [e] }

/-- Adds a thread, which must not start at address 0. -/
def addThread (d : Draft) (t : Thread) : Except FormatError Draft :=
  if t.entry = 0 then .error (.entry .threadEntry)
  else .ok (d.edit fun md => { md with threads := md.threads ++ [t] })

/-- Maps the constants onto cores that have no mapping yet. -/
def addConstantMapping (d : Draft) (m : ConstantMapping) : Except FormatError Draft :=
  match d.document.constantMappings.find? fun other => other.cores &&& m.cores != 0 with
  | some other => .error (.entry (.mappingOverlap m.cores other.cores))
  | none => .ok (d.edit fun md => { md with constantMappings := md.constantMappings ++ [m] })

/-! ## Finishing -/

/-- The fields that have no default must be set. -/
def checkComplete (md : Metadata) : Except FormatError Unit :=
  if md.cores = 0 then .error (.incomplete "numNSPs")
  else if md.vtcmSize = 0 then .error (.incomplete "VTCMSize")
  else if md.l2tcmSize = 0 then .error (.incomplete "L2TCMSize")
  else .ok ()

/-- The draft with the length and the regions of its init image. -/
def describeImage (d : Draft) : Draft :=
  d.edit fun md =>
    { md with
      initSize := UInt32.ofNat md.initImage.length
      initRegions := nonZeroRegions md.initImage }

/-- The draft with a name. -/
def withName (d : Draft) : Draft := if d.document.name = "" then d.setName defaultName else d

/-- The draft with a context block. -/
def withContext (d : Draft) : Draft := if d.contextChosen then d else d.setContext defaultContext

/-- The draft with the length of its record, unless it is set already. Every length takes the same
space, so setting it does not change it. -/
def withRawLength (d : Draft) : Draft :=
  if d.document.rawLength = 0 then
    d.edit fun md => { md with rawLength := UInt64.ofNat (2 * md.encode.length) }
  else d

/-- The written form of a document, the terminator in front. -/
def payload (md : Metadata) : Bytes := terminator ++ metadataMagic ++ md.encode

/-- Completes and encodes the document. -/
def finish (d : Draft) : Except FormatError Document := do
  checkComplete d.document
  let d := d.require Requirement.requiredFields
  if UInt32.size ≤ d.document.initImage.length then
    throw (.entry (.initImage d.document.initImage.length))
  let d := d.describeImage.withName.withContext.require Requirement.networkName
  let d := d.withRawLength
  return ⟨d.document, payload d.document⟩

end Draft

end ComputePlanner
