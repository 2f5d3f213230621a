import ComputePlanner.Bytes.LittleEndian
import ComputePlanner.Hardware.Memory

/-! # Transfer descriptors of a core
Each hardware thread has a small ring of descriptors for its own transfers. The runtime chains new
ones behind a dummy that a program ships already marked done, so that the first transfer never waits
on a chain that nobody wrote.

A descriptor is four words: the next descriptor, the length with the done flag in the top bit, the
source and the destination. -/

namespace ComputePlanner

/-- Bytes of a transfer descriptor. -/
def transferDescriptorSize : Nat := 16

/-- Cache lines of descriptors for each thread. -/
def cacheLinesPerThread : Nat := 2

/-- Bytes of the descriptor ring of a core that runs `threads` threads. -/
def ringSize (threads : Nat) : Nat := threads * cacheLine * cacheLinesPerThread

/-- A transfer within a core. -/
structure TransferDescriptor where
  /-- Address of the next descriptor, 0 at the end of the chain. -/
  next : UInt32 := 0
  /-- Bytes to transfer; the low 24 bits count. -/
  length : UInt32 := 0
  /-- Whether the transfer is done. -/
  done : Bool := false
  /-- Source address. -/
  source : UInt32 := 0
  /-- Destination address. -/
  destination : UInt32 := 0
  deriving DecidableEq, Repr

namespace TransferDescriptor

/-- The empty descriptor, already done, in front of each chain. -/
def dummy : TransferDescriptor where
  done := true

/-- The word that holds the length and the done flag. -/
def statusWord (d : TransferDescriptor) : UInt32 :=
  (d.length &&& 0x00FFFFFF) ||| (if d.done then 0x80000000 else 0)

/-- The written form. -/
def encode (d : TransferDescriptor) : Bytes :=
  word32 d.next ++ word32 d.statusWord ++ word32 d.source ++ word32 d.destination

@[simp] theorem length_encode (d : TransferDescriptor) :
    d.encode.length = transferDescriptorSize := by
  simp [encode, transferDescriptorSize]

end TransferDescriptor

end ComputePlanner
