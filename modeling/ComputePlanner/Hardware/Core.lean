/-! # Cores, threads and doorbells
The limits of the card and the fixed numbers of the protocol between host and cores: how many cores
and threads there are, which semaphores and ports transfers use, and the **doorbell window** at the
start of each core's scratch memory. The firmware polls a fixed number of slots there; the last one
is rung to end the program. -/

namespace ComputePlanner

/-- The most cores a program can span. -/
def maxCores : Nat := 16

/-- Hardware threads of a core. -/
def maxThreads : Nat := 6

/-- Vector threads of a program that does not choose a thread count. -/
def defaultVectorThreads : Nat := 4

/-- The hardware version that programs are planned for. -/
def supportedHardware : UInt32 × UInt32 := (2, 0)

/-- One bit for each of the first `cores` cores. -/
def allCoresMask (cores : Nat) : UInt32 := UInt32.ofNat (Nat.pow 2 (min cores 32) - 1)

/-! ## Semaphores and ports -/

/-- The semaphore that input transfers wait on. -/
def inputSemaphore : UInt16 := 0

/-- The semaphore that output transfers wait on. -/
def outputSemaphore : UInt16 := 1

/-- Semaphores a program declares. -/
def semaphoreCount : UInt16 := 2

/-- The port that inputs are queued on. -/
def inputPort : UInt16 := 100

/-- The port that outputs are queued on. -/
def outputPort : UInt16 := 101

/-! ## Doorbells -/

/-- Bytes of a doorbell slot. -/
def slotSize : Nat := 4

/-- Slots that the firmware polls, the exit slot among them. -/
def firmwareSlots : Nat := 281

/-- The slot that ends the program. -/
def exitSlot : Nat := firmwareSlots - 1

/-- The value of a rung slot. -/
def doorbellRung : UInt32 := 1

/-- The value of a cleared slot. -/
def doorbellClear : UInt32 := 0

/-- Bytes of the doorbell window. -/
def doorbellWindow : Nat := firmwareSlots * slotSize

/-- Where a slot lies in the window. -/
def slotOffset (slot : Nat) : Nat := slot * slotSize

end ComputePlanner
