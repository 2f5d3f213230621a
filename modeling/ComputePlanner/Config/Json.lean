import ComputePlanner.Config.Basic
import ComputePlanner.Json.Decode
import ComputePlanner.Json.Parse

/-! # Reading a configuration
A configuration is a JSON object, or an array of its fields in order. Keys that are not known are
refused, so that a typing error does not change a plan unnoticed. -/

namespace ComputePlanner

/-- The memories by name. -/
def AddressSpace.table : List (String × AddressSpace) :=
  [AddressSpace.l2tcm, .vtcm, .ddr].map fun s => (s.name, s)

namespace BufferSpec

/-- The fields of a buffer in order. -/
def fieldNames : List String :=
  ["type", "dims", "hostOffset", "devOffset", "baseAddrOffset", "dest", "nsps", "inSyncFence",
    "outSyncFence", "allowPartial"]

/-- The buffer that a value describes. -/
def ofJson? (j : Json) : Option BufferSpec := do
  let f ← j.fields? fieldNames .refused
  return {
    type := ← f.required "type" (Json.oneOf? ElementType.table)
    dims := ← f.required "dims" (Json.list? Json.word64?)
    hostOffset := ← f.optional "hostOffset" Json.word64? 0
    deviceOffset := ← f.optional "devOffset" Json.word64? 0
    baseOffset := ← f.optional "baseAddrOffset" Json.word64? 0
    space := ← f.required "dest" (Json.oneOf? AddressSpace.table)
    cores := ← f.optional "nsps" (Json.list? Json.word32?) []
    inFence := ← f.optional "inSyncFence" Json.word32? 0
    outFence := ← f.optional "outSyncFence" Json.word32? 0
    allowPartial := ← f.optional "allowPartial" Json.bool? false }

end BufferSpec

namespace ProgramConfig

/-- The fields of a configuration in order. -/
def fieldNames : List String :=
  ["name", "hwVersionMajor", "hwVersionMinor", "numNSPs", "numThreads", "numHMXThreads", "heapSize",
    "singleVTCMPage", "inputs", "outputs", "internalBuffers"]

/-- The configuration that a value describes. -/
def ofJson? (j : Json) : Option ProgramConfig := do
  let f ← j.fields? fieldNames .refused
  return {
    name := ← f.optional "name" Json.text? ""
    hardwareMajor := ← f.required "hwVersionMajor" Json.word32?
    hardwareMinor := ← f.required "hwVersionMinor" Json.word32?
    cores := ← f.required "numNSPs" Json.word32?
    threads := ← f.optional "numThreads" Json.word32? 0
    matrixThreads := ← f.optional "numHMXThreads" Json.word32? 0
    heapSize := ← f.optional "heapSize" Json.word64? 0
    singleVtcmPage := ← f.optional "singleVTCMPage" Json.bool? false
    inputs := ← f.optional "inputs" (Json.list? BufferSpec.ofJson?) []
    outputs := ← f.optional "outputs" (Json.list? BufferSpec.ofJson?) []
    internals := ← f.optional "internalBuffers" (Json.list? BufferSpec.ofJson?) [] }

/-- The configuration in a text. -/
def ofText (text : String) : Except PlanError ProgramConfig :=
  match (Json.ofString? text).bind ofJson? with
  | some c => .ok c
  | none => .error .json

/-- The configuration in a file that was read. -/
def ofFile (contents : Except FileFault Bytes) : Except PlanError ProgramConfig := do
  let bytes ← contents.mapError PlanError.file
  match Utf8.decode bytes with
  | .ok text => ofText text
  | .error _ => throw (.file .notText)

end ProgramConfig

end ComputePlanner
