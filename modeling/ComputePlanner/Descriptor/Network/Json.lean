import ComputePlanner.Descriptor.Network.Basic
import ComputePlanner.Json.Parse
import ComputePlanner.Json.Render
import ComputePlanner.Json.Single
import ComputePlanner.Metadata.Codes

/-! # The written form of the network descriptor
The descriptor is compact JSON. A reader skips keys that it does not know, so that a newer writer
can add some.

Main definitions: **`NetworkDescriptor.encode`** and **`NetworkDescriptor.decode`**. -/

namespace ComputePlanner

/-- The directions by name. -/
def Direction.table : List (String × Direction) :=
  [Direction.inward, .outward].map fun d => (d.name, d)

/-- The name of a layout. -/
def TensorLayout.name : TensorLayout → String
  | flat => "FlatNXYD"

/-- The layouts by name. -/
def TensorLayout.table : List (String × TensorLayout) :=
  [TensorLayout.flat].map fun l => (l.name, l)

/-- The name of a kind of step. -/
def TransformKind.name : TransformKind → String
  | copy => "CopyDMABufferTransform"

/-- The kinds of steps by name. -/
def TransformKind.table : List (String × TransformKind) :=
  [TransformKind.copy].map fun k => (k.name, k)

/-- A word of 64 bits in JSON. -/
def Json.ofWord64 (v : UInt64) : Json := .ofNat v.toNat

/-- A word of 32 bits in JSON. -/
def Json.ofWord32 (v : UInt32) : Json := .ofNat v.toNat

namespace TensorShape

/-- The fields of a shape in order. -/
def fieldNames : List String := ["type", "dims", "layout"]

/-- A shape in JSON. -/
def toJson (s : TensorShape) : Json :=
  .ofFields [("type", .ofText s.type.name), ("dims", .ofList Json.ofWord64 s.dims),
    ("layout", .ofText s.layout.name)]

/-- The shape that a value describes. -/
def ofJson? (j : Json) : Option TensorShape := do
  let f ← j.fields? fieldNames .ignored
  return {
    type := ← f.required "type" (Json.oneOf? ElementType.table)
    dims := ← f.required "dims" (Json.list? Json.word64?)
    layout := ← f.required "layout" (Json.oneOf? TensorLayout.table) }

end TensorShape

namespace CopyTarget

/-- The fields of a target in order. -/
def fieldNames : List String := ["dir", "offset", "buffer_num"]

/-- A target in JSON. -/
def toJson (t : CopyTarget) : Json :=
  .ofFields [("dir", .ofText t.direction.name), ("offset", .ofWord64 t.offset),
    ("buffer_num", .ofWord32 t.buffer)]

/-- The target that a value describes. -/
def ofJson? (j : Json) : Option CopyTarget := do
  let f ← j.fields? fieldNames .ignored
  return {
    direction := ← f.required "dir" (Json.oneOf? Direction.table)
    offset := ← f.required "offset" Json.word64?
    buffer := ← f.required "buffer_num" Json.word32? }

end CopyTarget

namespace Transform

/-- The fields of a step in order. -/
def fieldNames : List String :=
  ["kind", "type", "scale", "offset", "dims", "layout", "copy_dma_buffer"]

/-- A step in JSON. -/
def toJson (t : Transform) : Json :=
  .ofFields [("kind", .ofText t.kind.name), ("type", .ofText t.type.name),
    ("scale", .ofSingle t.scale), ("offset", .ofInt t.offset.toInt),
    ("dims", .ofList Json.ofWord64 t.dims), ("layout", .ofText t.layout.name),
    ("copy_dma_buffer", t.target.toJson)]

/-- The step that a value describes. -/
def ofJson? (j : Json) : Option Transform := do
  let f ← j.fields? fieldNames .ignored
  return {
    kind := ← f.required "kind" (Json.oneOf? TransformKind.table)
    type := ← f.required "type" (Json.oneOf? ElementType.table)
    scale := ← f.required "scale" Json.single?
    offset := ← f.required "offset" Json.int32?
    dims := ← f.required "dims" (Json.list? Json.word64?)
    layout := ← f.required "layout" (Json.oneOf? TensorLayout.table)
    target := ← f.required "copy_dma_buffer" CopyTarget.ofJson? }

end Transform

namespace Tensor

/-- The fields of a tensor in order. -/
def fieldNames : List String :=
  ["name", "is_partial_allowed", "align", "io_initial", "io_transformed", "transformseq"]

/-- A field that is written only if it is there. -/
def optionalField {α : Type} (name : String) (value : α → Json) : Option α → List (String × Json)
  | some a => [(name, value a)]
  | none => []

/-- A tensor in JSON. -/
def toJson (t : Tensor) : Json :=
  .ofFields ([("name", .ofText t.name)]
    ++ optionalField "is_partial_allowed" Json.bool t.allowPartial
    ++ optionalField "align" Json.ofWord64 t.align
    ++ [("io_initial", t.initial.toJson), ("io_transformed", t.transformed.toJson),
      ("transformseq", .ofList Transform.toJson t.transforms)])

/-- The tensor that a value describes. -/
def ofJson? (j : Json) : Option Tensor := do
  let f ← j.fields? fieldNames .ignored
  return {
    name := ← f.required "name" Json.text?
    allowPartial := ← f.optional "is_partial_allowed" (Json.orNull? Json.bool?) none
    align := ← f.optional "align" (Json.orNull? Json.word64?) none
    initial := ← f.required "io_initial" TensorShape.ofJson?
    transformed := ← f.required "io_transformed" TensorShape.ofJson?
    transforms := ← f.required "transformseq" (Json.list? Transform.ofJson?) }

end Tensor

namespace TransferBuffer

/-- The fields of a transfer buffer in order. -/
def fieldNames : List String := ["size", "dir"]

/-- A transfer buffer in JSON. -/
def toJson (b : TransferBuffer) : Json :=
  .ofFields [("size", .ofWord64 b.size), ("dir", .ofText b.direction.name)]

/-- The transfer buffer that a value describes. -/
def ofJson? (j : Json) : Option TransferBuffer := do
  let f ← j.fields? fieldNames .ignored
  return {
    size := ← f.required "size" Json.word64?
    direction := ← f.required "dir" (Json.oneOf? Direction.table) }

end TransferBuffer

namespace NetworkDescriptor

/-- The fields of a descriptor in order. -/
def fieldNames : List String :=
  ["major_version", "minor_version", "network_name", "num_cores", "num_threads", "num_hvx_threads",
    "thread_groups", "thread_group_issue_count", "thread_group_names", "batch_size",
    "cluster_offsets", "inputs", "outputs", "dma_buffers"]

/-- A descriptor in JSON. -/
def toJson (d : NetworkDescriptor) : Json :=
  .ofFields [("major_version", .ofWord32 d.major), ("minor_version", .ofWord32 d.minor),
    ("network_name", .ofText d.name), ("num_cores", .ofWord32 d.cores),
    ("num_threads", .ofWord32 d.threads), ("num_hvx_threads", .ofWord32 d.vectorThreads),
    ("thread_groups", .ofList Json.ofWord32 d.threadGroups),
    ("thread_group_issue_count", .ofWord32 d.issuingGroups),
    ("thread_group_names", .ofList Json.ofText d.groupNames),
    ("batch_size", .ofWord32 d.batchSize),
    ("cluster_offsets", .ofList Json.ofWord64 d.clusterOffsets),
    ("inputs", .ofList Tensor.toJson d.inputs), ("outputs", .ofList Tensor.toJson d.outputs),
    ("dma_buffers", .ofList TransferBuffer.toJson d.buffers)]

/-- The descriptor that a value describes. -/
def ofJson? (j : Json) : Option NetworkDescriptor := do
  let f ← j.fields? fieldNames .ignored
  return {
    major := ← f.required "major_version" Json.word32?
    minor := ← f.required "minor_version" Json.word32?
    name := ← f.required "network_name" Json.text?
    cores := ← f.required "num_cores" Json.word32?
    threads := ← f.required "num_threads" Json.word32?
    vectorThreads := ← f.required "num_hvx_threads" Json.word32?
    threadGroups := ← f.required "thread_groups" (Json.list? Json.word32?)
    issuingGroups := ← f.required "thread_group_issue_count" Json.word32?
    groupNames := ← f.required "thread_group_names" (Json.list? Json.text?)
    batchSize := ← f.required "batch_size" Json.word32?
    clusterOffsets := ← f.required "cluster_offsets" (Json.list? Json.word64?)
    inputs := ← f.required "inputs" (Json.list? Tensor.ofJson?)
    outputs := ← f.required "outputs" (Json.list? Tensor.ofJson?)
    buffers := ← f.required "dma_buffers" (Json.list? TransferBuffer.ofJson?) }

/-- The written text. -/
def render (d : NetworkDescriptor) : String := d.toJson.render

/-- The written form. -/
def encode (d : NetworkDescriptor) : Bytes := Utf8.encode d.render

/-- The descriptor a buffer holds. -/
def decode (buf : Bytes) : Except PlanError NetworkDescriptor :=
  match (Json.parse? buf).bind ofJson? with
  | some d => .ok d
  | none => .error .json

end NetworkDescriptor

end ComputePlanner
