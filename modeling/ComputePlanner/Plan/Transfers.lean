import ComputePlanner.Plan.Handshake

/-! # Transfers of a program
Each input and output is moved by one transfer, numbered in the order in which the buffers are
processed. Internal buffers are not moved. -/

namespace ComputePlanner

/-- No transaction. -/
def noTransaction : UInt32 := 0

/-- Where a buffer's transfer goes and the port it is queued on, if it has one. -/
def Buffer.route? (b : Buffer) : Option (Direction × UInt16) :=
  match b.role with
  | .input => some (.inward, inputPort)
  | .output => some (.outward, outputPort)
  | .internal => none

/-- The address space of a transfer: on the chip, it goes through a multicast group. -/
def AddressSpace.deviceSpace (s : AddressSpace) : DeviceSpace :=
  if s.isOnChip then .multicast else .ddr

/-- The transfer of a buffer behind `count` others, if it has one. -/
def nextTransfer (count : Nat) (b : Buffer) (group : Option UInt16) (sync : BufferSync) :
    Except ConfigFault (Option Transfer) :=
  match b.route? with
  | none => .ok none
  | some (direction, port) =>
    match fit16? count with
    | none => .error .transferNumbers
    | some number =>
      .ok (some
        { number, hostOffset := b.hostOffset, space := b.space.deviceSpace,
          deviceOffset := b.deviceOffset, size := b.size, direction, port,
          group := group.getD 0, semaphores := sync.semaphores,
          doorbells := sync.doorbell.toList, transaction := noTransaction })

/-- Queues the transfer of a buffer, if it has one. -/
def enqueue (queue : Array Transfer) (b : Buffer) (group : Option UInt16) (sync : BufferSync) :
    Except ConfigFault (Array Transfer) := do
  match ← nextTransfer queue.size b group sync with
  | some t => return queue.push t
  | none => return queue

end ComputePlanner
