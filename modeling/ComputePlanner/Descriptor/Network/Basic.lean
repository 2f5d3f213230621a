import ComputePlanner.Binary.Rounding
import ComputePlanner.Config.Basic
import ComputePlanner.Metadata.Basic

/-! # The network descriptor
The host's view of a program: the **tensors** it exchanges, the transfer buffer that each of them is
copied to or from, and the threads it runs. Inputs come before outputs, and the buffers are numbered
in that order.

Main definitions: **`NetworkDescriptor`** and **`NetworkDescriptor.ofConfig`**. -/

namespace ComputePlanner

/-- How a tensor lies in memory. -/
inductive TensorLayout
  /-- Dense, the last dimension innermost. -/
  | flat
  deriving DecidableEq, Repr

/-- What a step does with a tensor. -/
inductive TransformKind
  /-- Copies it to or from a transfer buffer. -/
  | copy
  deriving DecidableEq, Repr

/-- The shape and type of a tensor. -/
structure TensorShape where
  type : ElementType
  dims : List UInt64
  layout : TensorLayout
  deriving DecidableEq, Repr

/-- The transfer buffer that a step copies to or from. -/
structure CopyTarget where
  direction : Direction
  /-- Where in the buffer. -/
  offset : UInt64
  /-- Which of the transfer buffers. -/
  buffer : UInt32
  deriving DecidableEq, Repr

/-- A step on the way between a tensor and its transfer buffer. -/
structure Transform where
  kind : TransformKind
  type : ElementType
  /-- The scale of quantized elements. -/
  scale : Binary.Number
  /-- The offset of quantized elements. -/
  offset : Int32
  dims : List UInt64
  layout : TensorLayout
  target : CopyTarget
  deriving DecidableEq, Repr

/-- A tensor that the host writes or reads. -/
structure Tensor where
  name : String
  /-- Whether the host may transfer only the front of it; said of inputs. -/
  allowPartial : Option Bool
  /-- Its alignment in bytes; said of inputs. -/
  align : Option UInt64
  /-- Its shape as the host has it. -/
  initial : TensorShape
  /-- Its shape behind all steps. -/
  transformed : TensorShape
  /-- The steps. -/
  transforms : List Transform
  deriving DecidableEq, Repr

/-- A buffer that is transferred. -/
structure TransferBuffer where
  size : UInt64
  direction : Direction
  deriving DecidableEq, Repr

/-- The host's view of a program. -/
structure NetworkDescriptor where
  major : UInt32
  minor : UInt32
  name : String
  cores : UInt32
  /-- Threads of each core. -/
  threads : UInt32
  /-- Threads of each core that drive the vector unit. -/
  vectorThreads : UInt32
  /-- The group of each thread. -/
  threadGroups : List UInt32
  /-- Groups that issue at the same time. -/
  issuingGroups : UInt32
  /-- The names of the groups. -/
  groupNames : List String
  batchSize : UInt32
  /-- Where the clusters are that the program is loaded at. -/
  clusterOffsets : List UInt64
  inputs : List Tensor
  outputs : List Tensor
  /-- The transfer buffers, inputs first. -/
  buffers : List TransferBuffer
  deriving DecidableEq, Repr

namespace NetworkDescriptor

/-- The version of the descriptor. -/
def currentVersion : UInt32 × UInt32 := (1, 0)

/-- The thread groups: vector threads are in group 0, matrix threads in group 1. -/
def threadGroupNames : List String := ["HVX", "HMX"]

/-- A scale of 1. -/
def unitScale : Binary.Number := ⟨false, Binary.Format.single.roundNat 1⟩

/-- A buffer's shape. -/
def shapeOf (s : BufferSpec) : TensorShape := ⟨s.type, s.dims, .flat⟩

/-- The tensor of a buffer, which is copied as it is. -/
def tensorOf (name : BufferName) (s : BufferSpec) (direction : Direction) (buffer : Nat) :
    Tensor where
  name := name.text
  allowPartial := if direction = .inward then some s.allowPartial else none
  align := if direction = .inward then some (UInt64.ofNat s.type.size) else none
  initial := shapeOf s
  transformed := shapeOf s
  transforms :=
    [{ kind := .copy, type := s.type, scale := unitScale, offset := 0, dims := s.dims,
       layout := .flat, target := ⟨direction, 0, UInt32.ofNat buffer⟩ }]

/-- The transfer buffer of a buffer, if its size is an address. -/
def transferBufferOf (name : BufferName) (s : BufferSpec) (direction : Direction) :
    Except ConfigFault TransferBuffer :=
  match s.byteSize? with
  | some size => .ok ⟨UInt64.ofNat size, direction⟩
  | none => .error (.buffer name .sizeOverflow)

/-- The role that a direction of transfer belongs to. -/
def roleOf : Direction → BufferRole
  | .inward => .input
  | .outward => .output

/-- Tensors and transfer buffers of the buffers of one direction, whose places among them start at
`index` and whose transfer buffers are numbered from `buffer` on. The host can transfer part of an
input only if it has one dimension. -/
def describe (direction : Direction) (index buffer : Nat) :
    List BufferSpec → Except ConfigFault (List (Tensor × TransferBuffer))
  | [] => .ok []
  | s :: specs => do
    let name : BufferName := ⟨roleOf direction, index⟩
    if direction = .inward ∧ s.allowPartial ∧ s.dims.length ≠ 1 then
      throw (.buffer name (.partialShape s.dims.length))
    let transferred ← transferBufferOf name s direction
    let rest ← describe direction (index + 1) (buffer + 1) specs
    return (tensorOf name s direction buffer, transferred) :: rest

/-- The host's view of what a configuration asks for. -/
def ofConfig (c : ProgramConfig) : Except ConfigFault NetworkDescriptor := do
  let threads ← c.threadPlan
  let inputs ← describe .inward 0 0 c.inputs
  let outputs ← describe .outward 0 c.inputs.length c.outputs
  return {
    major := currentVersion.1
    minor := currentVersion.2
    name := c.name
    cores := c.cores
    threads := UInt32.ofNat threads.total
    vectorThreads := UInt32.ofNat threads.vector
    threadGroups := List.replicate threads.vector 0 ++ List.replicate threads.matrix 1
    issuingGroups := UInt32.ofNat threadGroupNames.length
    groupNames := threadGroupNames
    batchSize := 1
    clusterOffsets := [0]
    inputs := inputs.map (·.1)
    outputs := outputs.map (·.1)
    buffers := inputs.map (·.2) ++ outputs.map (·.2) }

end NetworkDescriptor

end ComputePlanner
