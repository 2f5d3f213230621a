import ComputePlanner.Plan.Basic
import ComputePlanner.Proofs.Except
import Mathlib.Algebra.Group.Nat.Defs

/-! # What setting up buffers leaves behind
Setting up a buffer assigns a doorbell slot, queues a transfer and adds an entry for the loader;
each of the three keeps its own count. **`Setup.put`** is one such step without its checks, and
**`Setup.add_eq_ok_iff`** says that the step is this one, once the checks are passed. What a run of
steps leaves behind is read off from there: every slot, every entry and every transfer by its place
in the list.

Main statement: **`Setup.addAll_eq_ok`**. -/

namespace ComputePlanner

/-! ## Widths -/

/-- What fits 32 bits is kept. -/
theorem narrow32_eq_ok_iff (quantity : Quantity) (value : Nat) (w : UInt32) :
    narrow32 quantity value = .ok w ↔ value < 2 ^ 32 ∧ w = UInt32.ofNat value := by
  rw [narrow32]
  by_cases fits : value < 2 ^ 32
  · rw [fit32?_of_lt fits, and_iff_right fits, Except.ok.injEq, eq_comm]
  · rw [fit32?_of_le (Nat.le_of_not_lt fits)]
    exact iff_of_false nofun fun all => fits all.1

/-- What fits 16 bits is kept. -/
theorem narrow16_eq_ok_iff (quantity : Quantity) (value : Nat) (w : UInt16) :
    narrow16 quantity value = .ok w ↔ value < 2 ^ 16 ∧ w = UInt16.ofNat value := by
  rw [narrow16]
  by_cases fits : value < 2 ^ 16
  · rw [fit16?_of_lt fits, and_iff_right fits, Except.ok.injEq, eq_comm]
  · rw [fit16?_of_le (Nat.le_of_not_lt fits)]
    exact iff_of_false nofun fun all => fits all.1

/-! ## Entries for the loader -/

/-- The loader's view of a buffer, if its numbers fit. -/
def Buffer.entry (b : Buffer) (group : Option UInt16) (slot : Option Nat) : BufferEntry where
  location := b.space
  offset := UInt32.ofNat b.start
  size := b.size
  waitSlot := UInt16.ofNat (slot.getD 0)
  waitValue := if slot.isSome then doorbellRung else 0
  doneValue := if slot.isSome then doorbellRung else 0
  group := group.getD 0
  cores := UInt16.ofNat b.cores.toNat
  role := b.role
  allowPartial := b.allowPartial

/-- The loader can be told of a buffer exactly if its numbers fit. -/
theorem bufferEntry_eq_ok_iff (b : Buffer) (group : Option UInt16) (slot : Option Nat)
    (e : BufferEntry) :
    bufferEntry b group slot = .ok e ↔
      b.start < 2 ^ 32 ∧ slot.getD 0 < 2 ^ 16 ∧ b.cores.toNat < 2 ^ 16 ∧
      e = b.entry group slot := by
  rw [bufferEntry, bind_eq_ok]
  constructor
  · rintro ⟨offset, hoffset, rest⟩
    obtain ⟨waitSlot, hslot, rest⟩ := bind_eq_ok.mp rest
    obtain ⟨cores, hcores, rest⟩ := bind_eq_ok.mp rest
    obtain ⟨below, rfl⟩ := (narrow32_eq_ok_iff ..).mp hoffset
    obtain ⟨polled, rfl⟩ := (narrow16_eq_ok_iff ..).mp hslot
    obtain ⟨few, rfl⟩ := (narrow16_eq_ok_iff ..).mp hcores
    cases rest
    exact ⟨below, polled, few, rfl⟩
  · rintro ⟨below, polled, few, rfl⟩
    refine ⟨_, (narrow32_eq_ok_iff ..).mpr ⟨below, rfl⟩, ?_⟩
    refine bind_eq_ok.mpr ⟨_, (narrow16_eq_ok_iff ..).mpr ⟨polled, rfl⟩, ?_⟩
    exact bind_eq_ok.mpr ⟨_, (narrow16_eq_ok_iff ..).mpr ⟨few, rfl⟩, rfl⟩

/-! ## Transfers -/

/-- The port of a direction. -/
def Direction.port : Direction → UInt16
  | .inward => inputPort
  | .outward => outputPort

/-- The direction in which a buffer is moved, if it is. -/
def Buffer.direction (b : Buffer) : Direction := if b.role = .output then .outward else .inward

/-- Buffers that leave the device are moved, in their direction and on its port. -/
theorem Buffer.route?_of_ne {b : Buffer} (h : b.role ≠ .internal) :
    b.route? = some (b.direction, b.direction.port) := by
  rw [route?, direction]
  cases role : b.role with
  | input => rfl
  | output => rfl
  | internal => exact absurd role h

/-- Internal buffers are not moved. -/
theorem Buffer.route?_of_internal {b : Buffer} (h : b.role = .internal) : b.route? = none := by
  rw [route?, h]

/-- The transfer of a buffer with a number, a doorbell slot and a group. -/
def Handshake.transferOf (h : Handshake) (number slot : Nat) (b : Buffer) (group : Option UInt16) :
    Transfer where
  number := UInt16.ofNat number
  hostOffset := b.hostOffset
  space := b.space.deviceSpace
  deviceOffset := b.deviceOffset
  size := b.size
  direction := b.direction
  port := b.direction.port
  group := group.getD 0
  semaphores := h.semaphoreOps b
  doorbells := [⟨.bits32, doorbellGroup, UInt64.ofNat (slotOffset slot), doorbellRung⟩]
  transaction := noTransaction

/-- The part of the handshake that belongs to a buffer in a slot. -/
def Handshake.syncOf (h : Handshake) (slot : Nat) (b : Buffer) : BufferSync where
  slot := slot
  semaphores := h.semaphoreOps b
  doorbell := Handshake.doorbellOp? b slot
  firstValue := Handshake.firstValue b

/-- A buffer is assigned the next slot exactly if the exit slot is behind it. -/
theorem Handshake.assign_eq_ok_iff (h : Handshake) (b : Buffer) (sync : BufferSync)
    (h' : Handshake) :
    h.assign b = .ok (sync, h') ↔
      h.slots.length < exitSlot ∧ sync = h.syncOf h.slots.length b ∧
      h' = { h with slots := h.slots ++ [firstValue b] } := by
  rw [assign, ite_eq_ok_iff, ok_eq_ok_iff, Prod.mk.injEq]
  rfl

/-- A buffer that leaves the device is queued exactly if a number is left for its transfer. -/
theorem enqueue_of_ne {b : Buffer} (moved : b.role ≠ .internal) (queue : Array Transfer)
    (group : Option UInt16) (h : Handshake) (slot : Nat) (queue' : Array Transfer) :
    enqueue queue b group (h.syncOf slot b) = .ok queue' ↔
      queue.size < 2 ^ 16 ∧ queue' = queue.push (h.transferOf queue.size slot b group) := by
  rw [enqueue, nextTransfer, Buffer.route?_of_ne moved]
  by_cases fits : queue.size < 2 ^ 16
  · rw [fit16?_of_lt fits]
    dsimp only
    rw [ok_bind, Handshake.syncOf, Handshake.doorbellOp?, if_neg moved]
    exact ⟨fun h => ⟨fits, (Except.ok.inj h).symm⟩, fun h => congrArg _ h.2.symm⟩
  · rw [fit16?_of_le (Nat.le_of_not_lt fits)]
    exact iff_of_false nofun fun all => fits all.1

/-- An internal buffer is not queued. -/
theorem enqueue_of_internal {b : Buffer} (h : b.role = .internal) (queue : Array Transfer)
    (group : Option UInt16) (sync : BufferSync) : enqueue queue b group sync = .ok queue := by
  rw [enqueue, nextTransfer, Buffer.route?_of_internal h]
  rfl

namespace Setup

/-- The setup with one more buffer. -/
def put (s : Setup) (b : Buffer) (group : Option UInt16) : Setup where
  handshake := { s.handshake with slots := s.handshake.slots ++ [Handshake.firstValue b] }
  transfers :=
    if b.role = .internal then s.transfers
    else s.transfers.push
      (s.handshake.transferOf s.transfers.size s.handshake.slots.length b group)
  descriptor := s.descriptor.add (b.entry group (some s.handshake.slots.length))

/-- There is room for a buffer. -/
structure Room (s : Setup) (b : Buffer) : Prop where
  /-- A doorbell is left. -/
  slot : s.handshake.slots.length < exitSlot
  /-- A transfer number is left. -/
  number : b.role ≠ .internal → s.transfers.size < 2 ^ 16
  /-- The buffer's place is an offset for the loader. -/
  start : b.start < 2 ^ 32
  /-- The buffer's cores are cores for the loader. -/
  cores : b.cores.toNat < 2 ^ 16

/-- A buffer is set up exactly if there is room for it. -/
theorem add_eq_ok_iff (s : Setup) (b : Buffer) (group : Option UInt16) (s' : Setup) :
    s.add b group = .ok s' ↔ s.Room b ∧ s' = s.put b group := by
  -- with and without a transfer, the queue is the one that `put` leaves
  have queued (queue' : Array Transfer) :
      enqueue s.transfers b group (s.handshake.syncOf s.handshake.slots.length b) = .ok queue' ↔
        (b.role ≠ .internal → s.transfers.size < 2 ^ 16) ∧ queue' = (s.put b group).transfers := by
    rw [put]
    dsimp only
    by_cases internal : b.role = .internal
    · rw [enqueue_of_internal internal, if_pos internal, Except.ok.injEq, eq_comm]
      exact (and_iff_right fun moved => absurd internal moved).symm
    · rw [enqueue_of_ne internal, if_neg internal]
      exact and_congr_left fun _ => ⟨fun left _ => left, fun left => left internal⟩
  rw [add, bind_eq_ok]
  constructor
  · rintro ⟨⟨sync, handshake⟩, assigned, rest⟩
    obtain ⟨transfers, enqueued, rest⟩ := bind_eq_ok.mp rest
    obtain ⟨entry, told, rest⟩ := bind_eq_ok.mp rest
    obtain ⟨free, rfl, rfl⟩ := (Handshake.assign_eq_ok_iff ..).mp assigned
    obtain ⟨number, rfl⟩ := (queued _).mp enqueued
    obtain ⟨start, -, cores, rfl⟩ := (bufferEntry_eq_ok_iff ..).mp told
    cases rest
    exact ⟨⟨free, number, start, cores⟩, rfl⟩
  · rintro ⟨⟨free, number, start, cores⟩, rfl⟩
    -- slots end before the exit slot, so the check of the loader's width never fails
    have polled : s.handshake.slots.length < 2 ^ 16 := Nat.lt_trans free (by decide)
    refine ⟨_, (Handshake.assign_eq_ok_iff ..).mpr ⟨free, rfl, rfl⟩, ?_⟩
    refine bind_eq_ok.mpr ⟨_, (queued _).mpr ⟨number, rfl⟩, ?_⟩
    exact bind_eq_ok.mpr ⟨_, (bufferEntry_eq_ok_iff ..).mpr ⟨start, polled, cores, rfl⟩, rfl⟩

/-! ## Runs -/

/-- The setup with more buffers. -/
def putAll (s : Setup) (pairs : List (Buffer × Option UInt16)) : Setup :=
  pairs.foldl (fun s x => s.put x.1 x.2) s

theorem putAll_cons (s : Setup) (x : Buffer × Option UInt16)
    (pairs : List (Buffer × Option UInt16)) :
    s.putAll (x :: pairs) = (s.put x.1 x.2).putAll pairs := rfl

theorem putAll_append (s : Setup) (pairs pairs' : List (Buffer × Option UInt16)) :
    s.putAll (pairs ++ pairs') = (s.putAll pairs).putAll pairs' := List.foldl_append

/-- **A run that succeeds leaves behind what its steps put there**, and the loader can be told of
every buffer. -/
theorem addAll_eq_ok {s s' : Setup} {pairs : List (Buffer × Option UInt16)}
    (h : s.addAll pairs = .ok s') :
    s' = s.putAll pairs ∧ ∀ x ∈ pairs, x.1.start < 2 ^ 32 ∧ x.1.cores.toNat < 2 ^ 16 := by
  induction pairs generalizing s with
  | nil =>
    cases h
    exact ⟨rfl, fun x mem => absurd mem List.not_mem_nil⟩
  | cons x pairs ih =>
    obtain ⟨s₁, first, rest⟩ := bind_eq_ok.mp h
    obtain ⟨room, rfl⟩ := (add_eq_ok_iff ..).mp first
    obtain ⟨rfl, fit⟩ := ih rest
    exact ⟨rfl, List.forall_mem_cons.mpr ⟨⟨room.start, room.cores⟩, fit⟩⟩

/-- There is room for a run of buffers if there are doorbells for all of them and the loader can be
told of each. Transfers do not run out before doorbells do. -/
theorem addAll_of_fits {s : Setup} {pairs : List (Buffer × Option UInt16)}
    (slots : s.handshake.slots.length + pairs.length ≤ exitSlot)
    (queued : s.transfers.size ≤ s.handshake.slots.length)
    (fits : ∀ x ∈ pairs, x.1.start < 2 ^ 32 ∧ x.1.cores.toNat < 2 ^ 16) :
    s.addAll pairs = .ok (s.putAll pairs) := by
  induction pairs generalizing s with
  | nil => rfl
  | cons x pairs ih =>
    obtain ⟨first, rest⟩ := List.forall_mem_cons.mp fits
    rw [List.length_cons] at slots
    have few : exitSlot < 2 ^ 16 := by decide
    have room : s.Room x.1 := ⟨by omega, fun _ => by omega, first.1, first.2⟩
    have taken : (s.put x.1 x.2).handshake.slots.length = s.handshake.slots.length + 1 :=
      List.length_append
    have longer : (s.put x.1 x.2).transfers.size ≤ s.transfers.size + 1 := by
      rw [put]
      dsimp only
      split
      · exact Nat.le_succ _
      · exact Nat.le_of_eq (Array.size_push ..)
    have step : s.add x.1 x.2 = .ok (s.put x.1 x.2) := (add_eq_ok_iff ..).mpr ⟨room, rfl⟩
    rw [addAll, step, ok_bind, putAll_cons]
    exact ih (by omega) (by omega) rest

/-- A run assigns the slots behind those that are assigned, and changes nothing else of the
handshake. -/
theorem handshake_putAll (s : Setup) (pairs : List (Buffer × Option UInt16)) :
    (s.putAll pairs).handshake =
      { s.handshake with
        slots := s.handshake.slots ++ pairs.map fun x => Handshake.firstValue x.1 } := by
  induction pairs generalizing s with
  | nil => rw [List.map_nil, List.append_nil]; rfl
  | cons x pairs ih =>
    rw [putAll_cons, ih, put]
    simp only [List.map_cons, List.append_assoc, List.singleton_append]

/-- A run tells the loader of every buffer, in its slot. -/
theorem descriptor_putAll (s : Setup) (pairs : List (Buffer × Option UInt16)) :
    (s.putAll pairs).descriptor =
      { s.descriptor with
        buffers := s.descriptor.buffers
          ++ pairs.mapIdx fun i x => x.1.entry x.2 (some (s.handshake.slots.length + i)) } := by
  induction pairs generalizing s with
  | nil => rw [List.mapIdx_nil, List.append_nil]; rfl
  | cons x pairs ih =>
    rw [putAll_cons, ih, put]
    simp only [ProgramDescriptor.add, List.mapIdx_cons, List.append_assoc, List.singleton_append,
      List.length_append, List.length_singleton, Nat.add_zero, Nat.add_assoc, Nat.add_comm 1]

/-- Internal buffers add no transfer. -/
theorem transfers_putAll_of_internal (s : Setup) {pairs : List (Buffer × Option UInt16)}
    (internal : ∀ x ∈ pairs, x.1.role = .internal) :
    (s.putAll pairs).transfers = s.transfers := by
  induction pairs generalizing s with
  | nil => rfl
  | cons x pairs ih =>
    obtain ⟨here, later⟩ := List.forall_mem_cons.mp internal
    rw [putAll_cons, ih _ later, put, if_pos here]

/-- Every buffer that leaves the device adds a transfer. As long as no other came before, the
number of its transfer is the number of its slot. -/
theorem transfers_putAll_of_ne (s : Setup) {pairs : List (Buffer × Option UInt16)}
    (moved : ∀ x ∈ pairs, x.1.role ≠ .internal)
    (aligned : s.handshake.slots.length = s.transfers.size) :
    (s.putAll pairs).transfers.toList = s.transfers.toList ++ pairs.mapIdx fun i x =>
      s.handshake.transferOf (s.transfers.size + i) (s.transfers.size + i) x.1 x.2 := by
  induction pairs generalizing s with
  | nil => rw [List.mapIdx_nil, List.append_nil]; rfl
  | cons x pairs ih =>
    obtain ⟨here, later⟩ := List.forall_mem_cons.mp moved
    -- slot and transfer are counted up together, so they stay aligned
    have step : (s.put x.1 x.2).transfers = s.transfers.push
        (s.handshake.transferOf s.transfers.size s.transfers.size x.1 x.2) := by
      rw [put, if_neg here, aligned]
    have still : (s.put x.1 x.2).handshake.slots.length = (s.put x.1 x.2).transfers.size := by
      rw [step, Array.size_push, put, List.length_append, List.length_singleton, aligned]
    rw [putAll_cons, ih _ later still, step]
    simp only [Array.toList_push, Array.size_push, List.mapIdx_cons, List.append_assoc,
      List.singleton_append, Nat.add_zero, Nat.add_assoc, Nat.add_comm 1]
    rfl

end Setup

end ComputePlanner
