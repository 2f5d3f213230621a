import ComputePlanner.Artifact.Reading
import ComputePlanner.Buffer.Role
import ComputePlanner.Bytes.Word
import ComputePlanner.Hardware.Memory

/-! # The program descriptor
The loader on the device reads this record before it starts a thread. It lists every buffer with its
place, its doorbell slots and its multicast groups, so that device code finds its inputs and outputs
without the metadata document.

A header of 40 bytes is followed by 40 bytes for each buffer. The header's counts and core masks
are derived from the buffers when it is written and compared with them when it is read.

Main definitions: **`BufferEntry`**, **`ProgramDescriptor`**, **`ProgramDescriptor.encode`** and
**`ProgramDescriptor.decode`**. -/

namespace ComputePlanner

/-- A buffer as the loader sees it. -/
structure BufferEntry where
  /-- Where the buffer lies. -/
  location : AddressSpace := .l2tcm
  /-- Its offset there. -/
  offset : UInt32 := 0
  /-- Its bytes. -/
  size : UInt32 := 0
  /-- The doorbell slot the device waits on. -/
  waitSlot : UInt16 := 0
  /-- The doorbell slot the device rings when it is done. -/
  doneSlot : UInt16 := 0
  /-- The value of a rung wait slot. -/
  waitValue : UInt32 := 0
  /-- The value that is written to the done slot. -/
  doneValue : UInt32 := 0
  /-- Multicast group of the transfer. -/
  transferGroup : UInt16 := 0
  /-- Multicast group of the done slot. -/
  doneGroup : UInt16 := 0
  /-- Multicast group of the buffer. -/
  group : UInt16 := 0
  /-- One bit for each core that holds the buffer. -/
  cores : UInt16 := 0
  /-- Who uses it. -/
  role : BufferRole := .input
  /-- Whether a transfer may move only part of it. -/
  allowPartial : Bool := false
  deriving DecidableEq, Repr

namespace BufferEntry

/-- The number of a memory in a buffer entry. -/
def locationCode : AddressSpace → UInt32
  | .l2tcm => 0
  | .vtcm => 1
  | .ddr => 2

/-- The memory with a number. -/
def locationOfCode? (v : UInt32) : Option AddressSpace :=
  match v with
  | 0 => some .l2tcm
  | 1 => some .vtcm
  | 2 => some .ddr
  | _ => none

/-- The number of a role in a buffer entry. -/
def roleCode : BufferRole → UInt32
  | .input => 0
  | .output => 1
  | .internal => 2

/-- The role with a number. -/
def roleOfCode? (v : UInt32) : Option BufferRole :=
  match v with
  | 0 => some .input
  | 1 => some .output
  | 2 => some .internal
  | _ => none

@[simp] theorem locationOfCode?_locationCode (s : AddressSpace) :
    locationOfCode? (locationCode s) = some s := by
  cases s <;> rfl

@[simp] theorem roleOfCode?_roleCode (r : BufferRole) : roleOfCode? (roleCode r) = some r := by
  cases r <;> rfl

/-- Bytes of a buffer entry. -/
def encodedSize : Nat := 40

/-- The written form. -/
def encode (b : BufferEntry) : Bytes :=
  word32 (locationCode b.location) ++ word32 b.offset ++ word32 b.size ++ word16 b.waitSlot
    ++ word16 b.doneSlot ++ word32 b.waitValue ++ word32 b.doneValue ++ word16 b.transferGroup
    ++ word16 b.doneGroup ++ word16 b.group ++ word16 b.cores ++ word32 (roleCode b.role)
    ++ word32 (if b.allowPartial then 1 else 0)

@[simp] theorem length_encode (b : BufferEntry) : b.encode.length = encodedSize := by
  simp only [encode, encodedSize, List.length_append, length_word16, length_word32]

/-- Takes a value that must be there. -/
def expect {α : Type} (fault : FormatError) : Option α → Reading α
  | some a => return a
  | none => throw fault

/-- Reads one buffer. Any word but 0 lets transfers be partial. -/
def reading : Reading BufferEntry := do
  let location ← Artifact.program.read Cursor.u32
  let location ← expect (.programLocation location) (locationOfCode? location)
  let offset ← Artifact.program.read Cursor.u32
  let size ← Artifact.program.read Cursor.u32
  let waitSlot ← Artifact.program.read Cursor.u16
  let doneSlot ← Artifact.program.read Cursor.u16
  let waitValue ← Artifact.program.read Cursor.u32
  let doneValue ← Artifact.program.read Cursor.u32
  let transferGroup ← Artifact.program.read Cursor.u16
  let doneGroup ← Artifact.program.read Cursor.u16
  let group ← Artifact.program.read Cursor.u16
  let cores ← Artifact.program.read Cursor.u16
  let role ← Artifact.program.read Cursor.u32
  let role ← expect (.programUsage role) (roleOfCode? role)
  let allowPartial ← Artifact.program.read Cursor.u32
  return { location, offset, size, waitSlot, doneSlot, waitValue, doneValue, transferGroup,
           doneGroup, group, cores, role, allowPartial := allowPartial ≠ 0 }

end BufferEntry

/-- The descriptor of a program: its threads, its semaphores and its buffers, which are referred to
by their place in the list. -/
structure ProgramDescriptor where
  /-- The slot that ends the program. -/
  exitSlot : UInt16 := 0
  /-- Threads of each core. -/
  threads : UInt32 := 0
  /-- The semaphore that guards inputs. -/
  inputSemaphore : UInt16 := 0
  /-- The semaphore that guards outputs. -/
  outputSemaphore : UInt16 := 0
  /-- The buffers. -/
  buffers : List BufferEntry := []
  /-- Which buffer is the descriptor ring. -/
  ringIndex : UInt32 := 0
  /-- Where the first descriptor of the ring's chain lies. -/
  dummyOffset : UInt32 := 0
  deriving DecidableEq, Repr

namespace ProgramDescriptor

/-- The version of the layout. -/
def layoutVersion : UInt16 := 1

/-- Bytes of the header. -/
def headerSize : Nat := 40

/-- Adds a buffer behind the others. -/
def add (d : ProgramDescriptor) (b : BufferEntry) : ProgramDescriptor :=
  { d with buffers := d.buffers ++ [b] }

/-- Adds the descriptor ring and notes its place and that of its first descriptor. -/
def addRing (d : ProgramDescriptor) (ring : BufferEntry) (dummyOffset : UInt32) :
    ProgramDescriptor :=
  { d.add ring with ringIndex := clamp32 d.buffers.length, dummyOffset }

/-- Buffers of a role. -/
def countOf (d : ProgramDescriptor) (role : BufferRole) : Nat :=
  d.buffers.countP (·.role = role)

/-- The cores that hold a buffer of a role. -/
def coresOf (d : ProgramDescriptor) (role : BufferRole) : UInt16 :=
  (d.buffers.filter (·.role = role)).foldl (fun mask b => mask ||| b.cores) 0

/-- Bytes of the written form. -/
def encodedSize (d : ProgramDescriptor) : Nat :=
  headerSize + d.buffers.length * BufferEntry.encodedSize

/-- A count in the header; its low 16 bits are kept. -/
def count16 (n : Nat) : UInt16 := UInt16.ofNat n

/-- The written header. -/
def encodeHeader (d : ProgramDescriptor) : Bytes :=
  word16 layoutVersion ++ word16 d.exitSlot ++ word32 (clamp32 d.encodedSize) ++ word32 d.threads
    ++ word16 (count16 d.buffers.length) ++ word16 (count16 (d.countOf .input))
    ++ word16 (count16 (d.countOf .output)) ++ word16 (count16 (d.countOf .internal))
    ++ word16 d.inputSemaphore ++ word16 d.outputSemaphore ++ word16 (d.coresOf .input)
    ++ word16 (d.coresOf .output) ++ word32 (UInt32.ofNat headerSize) ++ word32 d.ringIndex
    ++ word32 d.dummyOffset

/-- The written form. -/
def encode (d : ProgramDescriptor) : Bytes :=
  d.encodeHeader ++ d.buffers.flatMap BufferEntry.encode

@[simp] theorem length_encode (d : ProgramDescriptor) : d.encode.length = d.encodedSize := by
  have entries (bs : List BufferEntry) :
      (bs.flatMap BufferEntry.encode).length = bs.length * BufferEntry.encodedSize := by
    induction bs with
    | nil => simp
    | cons b bs ih => simp only [List.flatMap_cons, List.length_append, ih,
        BufferEntry.length_encode, List.length_cons, Nat.succ_mul]; omega
  simp only [encode, encodeHeader, List.length_append, length_word16, length_word32, entries,
    encodedSize, headerSize]

/-- Reads a descriptor of `length` bytes. What lies between the header and the buffers is skipped,
and the header must agree with the buffers and with the length. -/
def reading (length : Nat) : Reading ProgramDescriptor := do
  let found ← Artifact.program.read Cursor.u16
  if found ≠ layoutVersion then
    throw (.version .program found.toNat layoutVersion.toNat)
  let exitSlot ← Artifact.program.read Cursor.u16
  let size ← Artifact.program.read Cursor.u32
  let threads ← Artifact.program.read Cursor.u32
  let count ← Artifact.program.read Cursor.u16
  let inputs ← Artifact.program.read Cursor.u16
  let outputs ← Artifact.program.read Cursor.u16
  let internals ← Artifact.program.read Cursor.u16
  let inputSemaphore ← Artifact.program.read Cursor.u16
  let outputSemaphore ← Artifact.program.read Cursor.u16
  let inputCores ← Artifact.program.read Cursor.u16
  let outputCores ← Artifact.program.read Cursor.u16
  let tableOffset ← Artifact.program.read Cursor.u32
  let ringIndex ← Artifact.program.read Cursor.u32
  let dummyOffset ← Artifact.program.read Cursor.u32
  if size.toNat ≠ length
      ∨ size.toNat ≠ tableOffset.toNat + count.toNat * BufferEntry.encodedSize then
    throw (.programSize size.toNat count.toNat length)
  let _ ← Artifact.program.read fun c => c.take (tableOffset.toNat - headerSize)
  let buffers ← BufferEntry.reading.times count.toNat
  let d : ProgramDescriptor :=
    { exitSlot, threads, inputSemaphore, outputSemaphore, buffers, ringIndex, dummyOffset }
  if inputs = count16 (d.countOf .input) ∧ outputs = count16 (d.countOf .output)
      ∧ internals = count16 (d.countOf .internal) ∧ inputCores = d.coresOf .input
      ∧ outputCores = d.coresOf .output then
    return d
  else throw .programHeader

/-- The descriptor a buffer holds. -/
def decode (buf : Bytes) : Except FormatError ProgramDescriptor := (reading buf.length).run buf

end ProgramDescriptor

end ComputePlanner
