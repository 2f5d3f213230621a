import ComputePlanner.Bytes.Word

/-! # The memories of the card
A program places its buffers in one of three **address spaces**. Every core has two memories of its
own: a small scratch memory, L2TCM, and a vector memory, VTCM; writes reach them through multicast.
DDR lies off the chip, is shared by all cores, and is sized by the host.

Main definitions: **`AddressSpace`** with its capacity, and **`alignUp`**, which rounds an offset up
to a boundary; where its sum is no word, **`alignUpIn?`** says what each build does. -/

namespace ComputePlanner

/-- A memory that buffers can be placed in. -/
inductive AddressSpace
  /-- Scratch memory of a core, which also holds its doorbells and transfer descriptors. -/
  | l2tcm
  /-- Vector memory of a core. -/
  | vtcm
  /-- Memory off the chip. -/
  | ddr
  deriving DecidableEq, Repr

/-- Bytes in a mebibyte. -/
def mebibyte : Nat := 1024 * 1024

/-- On the chip, base groups start on page boundaries. -/
def pageSize : Nat := 4096

/-- Bytes in a cache line. -/
def cacheLine : Nat := 128

namespace AddressSpace

/-- The name of a space. -/
def name : AddressSpace → String
  | l2tcm => "L2TCM"
  | vtcm => "VTCM"
  | ddr => "DDR"

/-- The most bytes a program may use per core; the host sizes DDR. -/
def capacity? : AddressSpace → Option Nat
  | l2tcm => some mebibyte
  | vtcm => some (8 * mebibyte)
  | ddr => none

/-- Whether a space belongs to a core and is reached through multicast. -/
def isOnChip : AddressSpace → Bool
  | l2tcm | vtcm => true
  | ddr => false

end AddressSpace

/-- The next multiple of `align`, a power of two, that is not below `value`. The sum is that of a
release build: it may pass the last word, since taking one off brings it back. -/
def alignUp (value align : UInt64) : UInt64 := (value + align - 1) &&& ~~~(align - 1)

/-- The same in a build that may stop on the way. -/
def alignUpIn? (build : Build) (value align : UInt64) : Option UInt64 := do
  let sum ← build.sum? (value.toNat + align.toNat)
  let last ← build.difference? sum 1
  let low ← build.difference? align 1
  return last &&& ~~~low

end ComputePlanner
