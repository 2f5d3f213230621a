import ComputePlanner.Hardware.Core
import ComputePlanner.Hardware.TransferDescriptor

/-! # The reserved part of the scratch memory
Every core's scratch memory begins with a part that no buffer may use: the doorbell window, the
dummy descriptor and the ring of transfer descriptors, the last two on cache lines of their own. -/

namespace ComputePlanner

/-- Where the reserved part's pieces lie. The numbers are of any size: a machine has words for them, and
that sums of these could wrap around is left out. In the reservation of a program none does. -/
structure Reservation where
  /-- Bytes of the doorbell window, which lies in front. -/
  doorbellWindow : Nat
  /-- Where the dummy descriptor lies. -/
  dummyOffset : Nat
  /-- Where the descriptor ring lies. -/
  ringOffset : Nat
  /-- Bytes of the descriptor ring. -/
  ringSize : Nat
  deriving DecidableEq, Repr

/-- The next cache line at or behind an offset. -/
def nextCacheLine (offset : Nat) : Nat :=
  (alignUp (UInt64.ofNat offset) (UInt64.ofNat cacheLine)).toNat

namespace Reservation

/-- The reservation of cores that run `threads` threads. -/
def ofThreads (threads : Nat) : Reservation :=
  let dummyOffset := nextCacheLine ComputePlanner.doorbellWindow
  { doorbellWindow := ComputePlanner.doorbellWindow
    dummyOffset
    ringOffset := nextCacheLine (dummyOffset + transferDescriptorSize)
    ringSize := ComputePlanner.ringSize threads }

/-- The first byte that buffers may use. -/
def stop (r : Reservation) : Nat := r.ringOffset + r.ringSize

/-- Bytes that the runtime sets up: the doorbells and the dummy descriptor. The ring starts out
undefined. -/
def initLength (r : Reservation) : Nat := r.dummyOffset + transferDescriptorSize

end Reservation

end ComputePlanner
