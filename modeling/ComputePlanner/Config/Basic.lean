import ComputePlanner.Buffer.Spec
import ComputePlanner.Plan.Error

/-! # Program configurations
A configuration says which buffers a program exchanges with the host and on how many cores and
threads it runs. **`ProgramConfig.threadPlan`** settles the threads: matrix threads are part of the
total, and a total of 0 asks for the usual number of vector threads beside them. -/

namespace ComputePlanner

/-- What a program is asked to be. -/
structure ProgramConfig where
  /-- The network's name. -/
  name : String := ""
  hardwareMajor : UInt32
  hardwareMinor : UInt32
  /-- Cores used. -/
  cores : UInt32
  /-- Threads of each core, 0 for the usual number. -/
  threads : UInt32 := 0
  /-- Threads of each core that drive the matrix unit. -/
  matrixThreads : UInt32 := 0
  /-- Bytes of the network's heap. -/
  heapSize : UInt64 := 0
  /-- Whether the vector memory must be one page. -/
  singleVtcmPage : Bool := false
  /-- The buffers the host writes. -/
  inputs : List BufferSpec := []
  /-- The buffers the host reads. -/
  outputs : List BufferSpec := []
  /-- The buffers private to the device. -/
  internals : List BufferSpec := []
  deriving DecidableEq, Repr

/-- The threads of each core. -/
structure ThreadPlan where
  /-- All threads. -/
  total : Nat
  /-- Those that drive the matrix unit. -/
  matrix : Nat
  deriving DecidableEq, Repr

/-- The threads that drive the vector unit. -/
def ThreadPlan.vector (t : ThreadPlan) : Nat := t.total - t.matrix

namespace ProgramConfig

/-- All threads of a core: the number asked for, or the usual vector threads and the matrix
threads. -/
def totalThreads (c : ProgramConfig) : Nat :=
  if c.threads = 0 then defaultVectorThreads + c.matrixThreads.toNat else c.threads.toNat

/-- The threads of each core. -/
def threadPlan (c : ProgramConfig) : Except ConfigFault ThreadPlan :=
  if maxThreads < c.totalThreads then .error (.threadCount c.threads c.matrixThreads)
  else if c.totalThreads < c.matrixThreads.toNat then
    .error (.matrixThreads c.matrixThreads c.totalThreads)
  else .ok ⟨c.totalThreads, c.matrixThreads.toNat⟩

end ProgramConfig

end ComputePlanner
