import ComputePlanner.Record.Schema

/-! # The schema of the metadata document
The tree of fields a metadata document may hold, and the names a document can **require** its reader
to know: the path of any field, from the root `Metadata` down, and the features that have no field
of their own (`isKnownField`). -/

namespace ComputePlanner

namespace MetadataSchema

/-- A field that must be there. -/
def must (tag : UInt16) (name : String) (kind : Kind) : FieldSpec where
  tag := tag
  name := name
  kind := kind
  mandatory := true

/-- A field that may be left out. -/
def may (tag : UInt16) (name : String) (kind : Kind) : FieldSpec where
  tag := tag
  name := name
  kind := kind

/-- A field of nested records, which may be left out. -/
def nest (tag : UInt16) (name : String) (kind : Kind) (nested : Schema) : FieldSpec where
  tag := tag
  name := name
  kind := kind
  nested := nested

/-- A run of the init image. -/
def region : Schema := [must 1 "start" .u64, must 2 "end" .u64, must 3 "size" .u64]

/-- A multicast group as one core sees it. -/
def coreEntry : Schema :=
  [may 1 "dynamic" .bool, must 2 "mask" .u32, must 3 "size" .u32, may 4 "addrSpace" .u8,
    may 5 "baseAddrOffset" .u64]

/-- The multicast groups of one core. -/
def coreTable : Schema := [nest 1 "multicastEntries" .records coreEntry]

/-- A multicast group as the host sees it. -/
def hostEntry : Schema := [must 1 "mask" .u32, must 2 "size" .u32]

/-- The multicast groups of the host. -/
def hostTable : Schema := [nest 1 "multicastEntries" .records hostEntry]

/-- An operation on a semaphore. -/
def semaphoreOp : Schema :=
  [must 1 "semOp" .u8, must 2 "semNum" .u16, may 3 "semValue" .u16, may 4 "preOrPost" .u8,
    may 5 "inSyncFence" .bool, may 6 "outSyncFence" .bool]

/-- A doorbell write. -/
def doorbellOp : Schema :=
  [must 1 "opSize" .u8, may 2 "mcId" .u16, must 3 "offset" .u64, may 4 "data" .u32]

/-- A transfer between host and device. -/
def transfer : Schema :=
  [must 1 "num" .u16, may 2 "hostOffset" .u64, must 3 "devAddrSpace" .u8, may 4 "devOffset" .u64,
    must 5 "size" .u32, must 6 "inOut" .u8, may 7 "portId" .u16, may 8 "mcId" .u16,
    nest 9 "semaphoreOps" .records semaphoreOp, nest 10 "doorbellOps" .records doorbellOp,
    may 11 "transactionId" .u32]

/-- A thread of every core. -/
def thread : Schema := [must 1 "entryPoint" .u64, must 2 "typeMask" .u8]

/-- The constants as a set of cores sees them. -/
def constantMapping : Schema :=
  [must 1 "coreMask" .u32, may 2 "constantDataBaseOffset" .u64, must 3 "size" .u32]

/-- A registered port. -/
def port : Schema := [must 1 "portId" .u16, may 2 "portType" .u8]

/-- Settings of the network. -/
def networkConfig : Schema := [may 1 "Constants" .u8]

/-- A slot of the context block that the program uses. -/
def contextField : Schema :=
  [must 1 "name" .text, must 2 "size" .u32, must 3 "offset" .u32, may 4 "required" .bool]

/-- The context block that the program expects. -/
def contextContract : Schema :=
  [must 1 "execContextSize" .u32, nest 2 "fields" .records contextField]

/-- The root record. -/
def root : Schema :=
  [must 1 "versionMajor" .u16, must 2 "versionMinor" .u16, may 3 "execContextMajorVersion" .u16,
    must 4 "hwVersionMajor" .u16, must 5 "hwVersionMinor" .u16, must 6 "exitDoorbellOffset" .u64,
    may 7 "networkName" .text, must 8 "numNSPs" .u16, must 9 "VTCMSize" .u32,
    must 10 "L2TCMSize" .u32, may 11 "numSemaphores" .u16, may 12 "semaphoreInitState" .words,
    may 13 "L2TCMInitSize" .u32, may 14 "L2TCMInitState" .bytes,
    nest 15 "L2TCMInitStateNonZeroRegions" .records region, may 16 "staticSharedDDRSize" .u64,
    may 17 "staticSharedDDRECCEnabled" .bool, may 18 "dynamicSharedDDRSize" .u64,
    may 19 "dynamicSharedDDRECCEnabled" .bool, may 20 "staticConstantsSize" .u64,
    may 21 "staticConstantsECCEnabled" .bool, may 22 "dynamicConstantsSize" .u64,
    may 23 "dynamicConstantsECCEnabled" .bool, may 24 "singleVTCMPage" .bool,
    nest 25 "nspMulticastTables" .records coreTable, nest 26 "hostMulticastTable" .record hostTable,
    nest 27 "dmaRequests" .records transfer, nest 28 "threadDescriptors" .records thread,
    nest 29 "constantMappings" .records constantMapping, nest 30 "portTable" .records port,
    may 31 "networkHeapSize" .u64, may 32 "networkHeapBehavior" .u8,
    nest 33 "QNNConfig" .record networkConfig, may 34 "hasHvxFP" .bool, may 35 "hasHmxFP" .bool,
    may 36 "requiredFields" .texts, may 37 "raw_struct_version_length" .u64,
    nest 38 "execContext" .record contextContract]

/-- The name of the root in paths. -/
def rootName : String := "Metadata"

end MetadataSchema

/-! ## Names that can be required -/

namespace Requirement

/-- The list of required fields itself. -/
def requiredFields : String := "Metadata->requiredFields"

/-- The network's name. -/
def networkName : String := "Metadata->networkName"

/-- The context block that the program expects. -/
def contextContract : String := "Metadata->execContext"

/-- Shared memory that is allocated for each activation. -/
def dynamicDdr : String := "Metadata->dynamicSharedDDRSupported"

/-- What becomes of the heap on deactivation. -/
def heapBehavior : String := "Metadata->networkHeapBehavior"

/-- Whether constants stay loaded. -/
def constantsCaching : String := "Metadata->QNNConfig->Constants"

end Requirement

/-- Features without a field of their own. -/
def knownFeatures : List String := [Requirement.dynamicDdr]

/-- The parts of a path between its arrows. -/
def splitArrows : List Char → List (List Char)
  | [] => [[]]
  | '-' :: '>' :: rest => [] :: splitArrows rest
  | c :: rest =>
    match splitArrows rest with
    | part :: parts => (c :: part) :: parts
    | [] => [[c]]

/-- The names along a path. -/
def pathNames (path : String) : List String := (splitArrows path.toList).map String.ofList

/-- Whether a reader knows what `name` requires: a feature, or the path of a field. -/
def isKnownField (name : String) : Bool :=
  knownFeatures.contains name ||
    match pathNames name with
    | root :: names => root == MetadataSchema.rootName && MetadataSchema.root.hasPath names
    | [] => false

end ComputePlanner
