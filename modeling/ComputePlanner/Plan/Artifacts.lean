import ComputePlanner.Container.Draft
import ComputePlanner.Descriptor.Constants
import ComputePlanner.Descriptor.Network.Json
import ComputePlanner.Plan.Basic

/-! # The artifacts of a program
A plan is written down four times: the metadata document for the runtime, the program descriptor and
the constants descriptor for the loader, and the network descriptor for the host. Packed with the
linked binary they make a container.

The metadata document is described by the edits that write it.

Main definitions: **`ProgramConfig.writeMetadata`**, **`Artifacts`**, **`ProgramConfig.generate`**
and **`Artifacts.containerDraft`**. -/

namespace ComputePlanner

namespace ProgramPlan

/-- Edits that set up the semaphores. -/
def semaphoreEdits (p : ProgramPlan) : List Edit :=
  .semaphores semaphoreCount
    :: p.handshake.semaphoreInit.mapIdx fun i value => .initSemaphore (UInt16.ofNat i) value

/-- Edits that write the init image: the doorbells and the dummy descriptor. -/
def imageEdits (p : ProgramPlan) : List Edit :=
  [.resizeInit p.reservation.initLength] ++ p.handshake.edits
    ++ [.writeInit (UInt64.ofNat p.reservation.dummyOffset) TransferDescriptor.dummy.encode]

/-- Edits that write the multicast tables. -/
def tableEdits (p : ProgramPlan) : List Edit :=
  (p.router.coreTables.mapIdx fun core table =>
      table.map (Edit.coreEntry (UInt16.ofNat core))).flatten
    ++ p.router.hostTable.map Edit.hostEntry

/-- Edits that write what is known before sizes: semaphores, doorbells, tables and transfers. -/
def communicationEdits (p : ProgramPlan) : List Edit :=
  p.semaphoreEdits ++ p.imageEdits
    ++ [.port ⟨inputPort, .user⟩, .port ⟨outputPort, .user⟩,
      .exitDoorbell (UInt64.ofNat (slotOffset exitSlot))]
    ++ p.tableEdits ++ p.transfers.toList.map Edit.transfer

/-- Edits that add the threads, each starting at `entryPoint`: vector threads, then matrix
threads. -/
def threadEdits (p : ProgramPlan) (entryPoint : UInt64) : List Edit :=
  (List.replicate p.threads.vector vectorUnit ++ List.replicate p.threads.matrix matrixUnit).map
    fun units => .thread ⟨entryPoint, units⟩

/-- Edits that write memory sizes and the program's settings. -/
def sizeEdits (p : ProgramPlan) (c : ProgramConfig) (vtcm l2tcm : UInt32) (constants : UInt64) :
    List Edit :=
  [.vtcmSize vtcm, .l2tcmSize l2tcm, .staticDdr ⟨UInt64.ofNat p.resources.ddr, false⟩,
    .dynamicDdr ⟨0, false⟩, .heapSize c.heapSize, .singleVtcmPage c.singleVtcmPage,
    .staticConstants ⟨constants, false⟩, .dynamicConstants ⟨0, false⟩]

end ProgramPlan

namespace ProgramConfig

/-- Writes the metadata document of a plan, for constants of a length and threads that start at
`entryPoint`. -/
def writeMetadata (c : ProgramConfig) (p : ProgramPlan) (entryPoint constants : UInt64) :
    Except PlanError Document := do
  let major ← narrow16 .hardwareMajor c.hardwareMajor.toNat
  let minor ← narrow16 .hardwareMinor c.hardwareMinor.toNat
  let cores ← narrow16 .coreCount p.router.cores
  let d ← (Draft.start major minor).applyAll
    ([.name c.name, .cores cores] ++ p.communicationEdits)
  let vtcm ← narrow32 .vtcmSize p.resources.vtcm
  let l2tcm ← narrow32 .l2tcmSize p.resources.l2tcm
  let d ← d.applyAll (p.sizeEdits c vtcm l2tcm constants)
  let mapped ← narrow32 .constantsSize constants.toNat
  let d ← d.applyAll
    (.constantMapping ⟨allCoresMask p.router.cores, 0, mapped⟩ :: p.threadEdits entryPoint)
  d.finish

/-- Plans a program and writes its metadata document. -/
def generateMetadata (c : ProgramConfig) (entryPoint : UInt64) : Except PlanError Document := do
  let p ← c.plan
  c.writeMetadata p entryPoint (UInt64.ofNat p.descriptor.encodedSize)

end ProgramConfig

/-- The artifacts of a program. -/
structure Artifacts where
  /-- The metadata document. -/
  metadata : Document
  /-- The program descriptor. -/
  program : ProgramDescriptor
  /-- The sizes of the constants. -/
  constants : ConstantsDescriptor
  /-- The network descriptor. -/
  network : NetworkDescriptor
  deriving DecidableEq, Repr

namespace Artifacts

/-- The constants: the program descriptor as the loader reads it. -/
def constantsData (a : Artifacts) : Bytes := a.program.encode

/-- The artifacts beside the metadata document as files, in the order they are written. -/
def loaderFiles (a : Artifacts) : List (String × Bytes) :=
  [(Image.constantsName, a.constantsData), (Image.constantsSizesName, a.constants.encode),
    (Image.networkName, a.network.encode)]

/-- The artifacts and the linked binary in a container. The constants are loaded in front of the
dynamic ones, which begin at their end: that is their offset. -/
def containerDraft (a : Artifacts) (binary : Bytes) : Except FormatError ContainerDraft := do
  let d ← ContainerDraft.empty.add ⟨Image.binaryName, 0, binary⟩
  let d ← d.add ⟨Image.metadataName, 0, a.metadata.bytes⟩
  let d ← d.add ⟨Image.constantsName, UInt64.ofNat a.constantsData.length, a.constantsData⟩
  let d ← d.add ⟨Image.constantsSizesName, 0, a.constants.encode⟩
  d.add ⟨Image.networkName, 0, a.network.encode⟩

end Artifacts

namespace ProgramConfig

/-- Plans a program and writes all its artifacts. -/
def generate (c : ProgramConfig) (entryPoint : UInt64) : Except PlanError Artifacts := do
  let p ← c.plan
  let network ← NetworkDescriptor.ofConfig c
  let metadata ← c.writeMetadata p entryPoint (UInt64.ofNat p.descriptor.encode.length)
  let md := metadata.metadata
  return {
    metadata
    program := p.descriptor
    constants := ⟨md.staticConstants.size, md.dynamicConstants.size, md.staticConstants.ecc,
      md.dynamicConstants.ecc⟩
    network }

end ProgramConfig

end ComputePlanner
