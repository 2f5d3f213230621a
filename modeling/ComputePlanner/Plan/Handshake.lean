import ComputePlanner.Metadata.Draft.Edit
import ComputePlanner.Plan.Multicast

/-! # The handshake between host and cores
Two counting semaphores and a doorbell for each buffer carry the protocol.

* An input transfer waits until the input semaphore equals the number of cores that hold inputs:
  each of them has signalled that it is done with the last batch. The last input resets it to 0.
* An output transfer waits until the output semaphore has dropped to 0. The last output sets it to
  the number of cores that hold outputs.
* After each transfer the buffer's doorbell is rung, which the device clears before it uses the
  data.

Main definitions: **`Handshake`**, **`Handshake.ofBuffers`**, **`Handshake.assign`** and
**`Handshake.edits`**. -/

namespace ComputePlanner

/-- Bits set in a mask. -/
def coreTotal (mask : UInt32) : Nat := (List.range 32).countP fun i => mask.toNat.testBit i

/-- The part of the handshake that belongs to one buffer. -/
structure BufferSync where
  /-- Its doorbell slot. -/
  slot : Nat
  /-- What its transfer does to semaphores. -/
  semaphores : List SemaphoreOp
  /-- The doorbell rung after its transfer. -/
  doorbell : Option DoorbellOp
  /-- The slot's first value. -/
  firstValue : UInt32
  deriving DecidableEq, Repr

/-- The handshake of a program. -/
structure Handshake where
  /-- The cores that hold inputs. -/
  inputCores : UInt32
  /-- The cores that hold outputs. -/
  outputCores : UInt32
  /-- Inputs of the program. -/
  inputs : Nat
  /-- Outputs of the program. -/
  outputs : Nat
  /-- The first values of the slots assigned so far. -/
  slots : List UInt32
  deriving DecidableEq, Repr

namespace Handshake

/-- The cores that hold a buffer of a role. -/
def coresOf (role : BufferRole) (buffers : List Buffer) : UInt32 :=
  (buffers.filter (·.role = role)).foldl (fun mask b => mask ||| b.cores) 0

/-- The handshake of a program's buffers, before a slot is assigned. -/
def ofBuffers (buffers : List Buffer) : Except ConfigFault Handshake :=
  if firmwareSlots < buffers.length + 1 then .error (.doorbells buffers.length)
  else .ok
    { inputCores := coresOf .input buffers
      outputCores := coresOf .output buffers
      inputs := buffers.countP (·.role = .input)
      outputs := buffers.countP (·.role = .output)
      slots := [] }

/-- What the input semaphore has to reach before inputs are written. -/
def inputTarget (h : Handshake) : UInt16 := UInt16.ofNat (coreTotal h.inputCores)

/-- What the output semaphore is set to. -/
def outputTarget (h : Handshake) : UInt16 := UInt16.ofNat (coreTotal h.outputCores)

/-- The first values of the two semaphores. -/
def semaphoreInit (h : Handshake) : List UInt32 := [0, h.outputTarget.toUInt32]

/-- What a buffer's transfer does to semaphores: it waits for its turn, and the last of its kind
sets the semaphore for the next batch. -/
def semaphoreOps (h : Handshake) (b : Buffer) : List SemaphoreOp :=
  let op (action : SemaphoreAction) (semaphore value : UInt16) (point : SyncPoint) : SemaphoreOp :=
    { action, semaphore, value, point, inFence := b.inFence, outFence := b.outFence }
  match b.role with
  | .input =>
    op .waitEq inputSemaphore h.inputTarget .pre ::
      (if b.name.index + 1 = h.inputs then [op .init inputSemaphore 0 .post] else [])
  | .output =>
    op .waitEq outputSemaphore 0 .pre ::
      (if b.name.index + 1 = h.outputs then [op .init outputSemaphore h.outputTarget .post] else [])
  | .internal => []

/-- The doorbell rung after a buffer's transfer. -/
def doorbellOp? (b : Buffer) (slot : Nat) : Option DoorbellOp :=
  if b.role = .internal then none
  else some ⟨.bits32, doorbellGroup, UInt64.ofNat (slotOffset slot), doorbellRung⟩

/-- The first value of a buffer's slot: an output starts out rung, since the device may fill it. -/
def firstValue (b : Buffer) : UInt32 := if b.role = .output then doorbellRung else doorbellClear

/-- Assigns the next slot to a buffer. -/
def assign (h : Handshake) (b : Buffer) : Except ConfigFault (BufferSync × Handshake) :=
  let slot := h.slots.length
  if slot < exitSlot then
    .ok (⟨slot, h.semaphoreOps b, doorbellOp? b slot, firstValue b⟩,
      { h with slots := h.slots ++ [firstValue b] })
  else .error (.buffer b.name .noDoorbell)

/-- A slot's first value as an edit of the init image. -/
def slotEdit (slot : Nat) (value : UInt32) : Edit :=
  .writeInitWord (UInt64.ofNat (slotOffset slot)) value

/-- Edits that write values into the slots from `slot` on. -/
def slotEdits (slot : Nat) : List UInt32 → List Edit
  | [] => []
  | value :: values => slotEdit slot value :: slotEdits (slot + 1) values

/-- Edits that write every assigned slot, and the cleared exit slot, into the init image. -/
def edits (h : Handshake) : List Edit := slotEdits 0 h.slots ++ [slotEdit exitSlot doorbellClear]

end Handshake

end ComputePlanner
