import ComputePlanner.Proofs.Descriptor.Network
import ComputePlanner.Proofs.Plan.Acceptance
import ComputePlanner.Proofs.Plan.Document

/-! # The artifacts describe the same buffers
A buffer that leaves the device is described four times: by a transfer for the runtime, an entry for
the loader, a transfer buffer and a tensor for the host. They are written by different walks over
the configuration and find each other by place alone. **`Artifacts.AgreeAt`** says what the four
have in common in one place, **`Artifacts.Agree`** says it of all places and of the counts.

Main statement: **`ProgramConfig.agree_of_generate`**. -/

namespace ComputePlanner

namespace Artifacts

/-- The transfer, the entry, the transfer buffer and the tensor in a place are those of one
buffer. -/
structure AgreeAt (a : Artifacts) (i : Nat) (t : Transfer) (e : BufferEntry) (x : TransferBuffer)
    (tensor : Tensor) : Prop where
  transferAt : a.metadata.metadata.transfers[i]? = some t
  entryAt : a.program.buffers[i]? = some e
  bufferAt : a.network.buffers[i]? = some x
  /-- Tensors are counted through: inputs, then outputs. -/
  tensorAt : (a.network.inputs ++ a.network.outputs)[i]? = some tensor
  number : t.number.toNat = i
  size : t.size = e.size
  hostSize : x.size.toNat = t.size.toNat
  /-- The transfer has the direction of the buffer's role. -/
  role : e.role = NetworkDescriptor.roleOf t.direction
  direction : x.direction = t.direction
  group : t.group = e.group
  /-- One doorbell is rung: the slot that the device waits on, with the value it waits for. -/
  doorbell : ∃ op, t.doorbells = [op] ∧ op.offset.toNat = 4 * e.waitSlot.toNat ∧
    op.data = e.waitValue
  /-- The tensor is copied to or from the transfer buffer in the same place. -/
  target : ∃ step, tensor.transforms = [step] ∧ step.kind = .copy ∧
    step.target.buffer.toNat = i ∧ step.target.direction = t.direction
  /-- The transfer goes to the memory that the buffer lies in. -/
  space : t.space = e.location.deviceSpace
  /-- Off the chip, the transfer has the address that the loader is told. -/
  offChip : t.space = .ddr → t.deviceOffset.toNat = e.offset.toNat
  /-- On the chip, it has that address behind the base that any core looks up for the group. -/
  onChip : t.space = .multicast → ∀ table ∈ a.metadata.metadata.coreTables,
    ∃ entry, table[t.group.toNat]? = some entry ∧
      t.deviceOffset.toNat + entry.base.toNat = e.offset.toNat

/-- All artifacts of a configuration describe the same buffers, threads and cores. -/
structure Agree (a : Artifacts) (c : ProgramConfig) (entryPoint : UInt64) : Prop where
  /-- There is a transfer for every input and output. -/
  transferCount : a.metadata.metadata.transfers.length = c.inputs.length + c.outputs.length
  /-- There is a transfer buffer for every input and output. -/
  bufferCount : a.network.buffers.length = c.inputs.length + c.outputs.length
  /-- There is an entry for every buffer and for the ring. -/
  entryCount : a.program.buffers.length
    = c.inputs.length + c.outputs.length + c.internals.length + 1
  /-- The ring is said to be the last. -/
  ringIndex : a.program.ringIndex.toNat
    = c.inputs.length + c.outputs.length + c.internals.length
  /-- The ring lies in the scratch memory, with 256 bytes for each thread. -/
  ring : ∃ e, a.program.buffers[a.program.ringIndex.toNat]? = some e ∧ e.location = .l2tcm ∧
    e.role = .internal ∧ e.offset.toNat = 1280 ∧ e.size.toNat = 256 * a.program.threads.toNat
  /-- Each input and output is described alike everywhere. -/
  place : ∀ i < c.inputs.length + c.outputs.length, ∃ t e x tensor, a.AgreeAt i t e x tensor
  /-- There is a thread for each that the loader starts. -/
  threadCount : a.metadata.metadata.threads.length = a.program.threads.toNat
  hostThreads : a.network.threads = a.program.threads
  /-- Every thread starts at the entry point. -/
  entryPoint : ∀ t ∈ a.metadata.metadata.threads, t.entry = entryPoint
  /-- As many threads drive the vector unit as the host is told. -/
  vectorThreads : (a.metadata.metadata.threads.countP fun t => t.units = vectorUnit)
    = a.network.vectorThreads.toNat
  /-- The threads of the first group drive the vector unit, the others the matrix unit. -/
  threadUnits : a.metadata.metadata.threads.map (·.units)
    = a.network.threadGroups.map fun group => if group = 0 then vectorUnit else matrixUnit
  cores : a.metadata.metadata.cores.toNat = a.network.cores.toNat
  /-- Every core has a multicast table. -/
  coreTables : a.metadata.metadata.coreTables.length = a.network.cores.toNat

end Artifacts

/-! ## One buffer -/

/-- The bytes of a buffer are those that the host computes for it. -/
theorem BufferSpec.toNat_of_checkedSize {s : BufferSpec} {size : UInt32} {bytes : Nat}
    (checked : s.checkedSize = .ok size) (known : s.byteSize? = some bytes) :
    size.toNat = bytes := by
  rw [checkedSize, known, Option.getD_some] at checked
  split at checked
  · cases checked
  · split at checked
    · next fits =>
      cases checked
      exact toNat_of_fit32? fits
    · cases checked

/-- A buffer off the chip has no base group. -/
theorem BufferSpec.baseOffset_of_checkPlace {s : BufferSpec} {role : BufferRole} {mask : UInt32}
    (checked : s.checkPlace role mask = .ok ()) (off : s.space.isOnChip = false) :
    s.baseOffset = 0 := by
  rw [checkPlace, off, if_neg Bool.false_ne_true] at checked
  by_cases free : s.baseOffset = 0
  · exact free
  · rw [if_pos free] at checked
    cases checked

/-- Transfers go directly to memory off the chip. -/
theorem AddressSpace.deviceSpace_eq_ddr_iff (s : AddressSpace) :
    s.deviceSpace = .ddr ↔ s.isOnChip = false := by
  rw [deviceSpace]
  cases s.isOnChip <;> decide

/-- Transfers go through groups to memory on the chip. -/
theorem AddressSpace.deviceSpace_eq_multicast_iff (s : AddressSpace) :
    s.deviceSpace = .multicast ↔ s.isOnChip = true := by
  rw [deviceSpace]
  cases s.isOnChip <;> decide

/-- What leaves the device is an input or an output, by the direction it is moved in. -/
theorem Buffer.role_eq_roleOf {b : Buffer} (moved : b.role ≠ .internal) :
    b.role = NetworkDescriptor.roleOf b.direction := by
  rw [direction]
  cases role : b.role with
  | input => rfl
  | output => rfl
  | internal => exact absurd role moved

/-- The loader is told where a buffer starts, if the address fits. -/
theorem Buffer.toNat_ofNat_start {b : Buffer} (fits : b.start < 2 ^ 32) :
    (UInt32.ofNat b.start).toNat = b.deviceOffset.toNat + b.baseOffset.toNat := by
  have whole : b.start = b.deviceOffset.toNat + b.baseOffset.toNat := by
    rw [start, lastAddress, UInt64.size] at fits ⊢
    omega
  rw [UInt32.toNat_ofNat_of_lt' fits, whole]

namespace Planned

variable {c : ProgramConfig} {p : ProgramPlan} {bufs : BufferSet}

/-- The buffers that leave the device are those that were asked for, in their places. -/
theorem exists_resolved (planned : Planned c p bufs) {i : Nat} {b : Buffer}
    (given : bufs.moved[i]? = some b) :
    ∃ (s : BufferSpec) (name : BufferName), c.moved[i]? = some s ∧ s.Resolved name c.cores b ∧
      b.direction = c.directionAt i := by
  obtain ⟨inputCount, inputAt⟩ := (resolveFrom_eq_ok_iff ..).mp planned.inputs
  obtain ⟨outputCount, outputAt⟩ := (resolveFrom_eq_ok_iff ..).mp planned.outputs
  rw [BufferSet.moved] at given
  rw [ProgramConfig.moved, ProgramConfig.directionAt, Buffer.direction]
  by_cases first : i < c.inputs.length
  · rw [List.getElem?_append_left (inputCount ▸ first)] at given
    have asked := List.getElem?_eq_getElem first
    have role := planned.sorted.inputs b (List.mem_of_getElem? given)
    refine ⟨_, _, ?_, inputAt i _ b asked given, ?_⟩
    · rw [List.getElem?_append_left first, asked]
    · rw [role, if_neg (show BufferRole.input ≠ .output by decide), if_pos first]
  · have behind : c.inputs.length ≤ i := Nat.le_of_not_lt first
    rw [List.getElem?_append_right (inputCount ▸ behind), inputCount] at given
    have inside : i - c.inputs.length < c.outputs.length :=
      outputCount ▸ (List.getElem?_eq_some_iff.mp given).1
    have asked := List.getElem?_eq_getElem inside
    have role := planned.sorted.outputs b (List.mem_of_getElem? given)
    refine ⟨_, _, ?_, outputAt _ _ b asked given, ?_⟩
    · rw [List.getElem?_append_right behind, asked]
    · rw [role, if_pos rfl, if_neg first]

/-- There are as many inputs and outputs as were asked for. -/
theorem length_moved (planned : Planned c p bufs) :
    bufs.moved.length = c.inputs.length + c.outputs.length :=
  planned.asked.length_moved

/-- There are as many buffers as were asked for. -/
theorem length_all (planned : Planned c p bufs) :
    bufs.all.length = c.inputs.length + c.outputs.length + c.internals.length :=
  planned.asked.length_all

/-- Off the chip, the address of a transfer is the offset that the loader is told. -/
theorem toNat_deviceOffset (planned : Planned c p bufs) {i : Nat} {b : Buffer}
    (given : bufs.moved[i]? = some b) (fits : b.start < 2 ^ 32)
    (offChip : b.space.isOnChip = false) :
    b.deviceOffset.toNat = (UInt32.ofNat b.start).toNat := by
  obtain ⟨s, name, -, resolved, -⟩ := planned.exists_resolved given
  have base : s.baseOffset = b.baseOffset := by rw [resolved.shape]; rfl
  have space : s.space = b.space := by rw [resolved.shape]; rfl
  have free := BufferSpec.baseOffset_of_checkPlace resolved.place (space ▸ offChip)
  rw [base] at free
  rw [Buffer.toNat_ofNat_start fits, free]
  rfl

/-- On the chip, every core looks up, behind the number of a buffer's group, the base that leads
from the address of the transfer to the offset that the loader is told. -/
theorem exists_base (planned : Planned c p bufs) {i : Nat} {b : Buffer}
    (given : p.buffers[i]? = some b) (fits : b.start < 2 ^ 32) (onChip : b.space.isOnChip = true)
    {table : List MulticastEntry} (mem : table ∈ p.router.coreTables) :
    ∃ number : UInt16, p.groups[i]? = some (some number) ∧
      ∃ entry, table[number.toNat]? = some entry ∧
        b.deviceOffset.toNat + entry.base.toNat = (UInt32.ofNat b.start).toNat := by
  obtain ⟨g, group⟩ := Option.isSome_iff_exists.mp (b.isSome_group?.trans onChip)
  obtain ⟨number, grouped, value, found⟩ := planned.group_of_some given group
  obtain ⟨core, -, rfl⟩ := List.mem_map.mp mem
  have base : (g.entryFor core).base = b.baseOffset := by
    rw [Buffer.group?] at group
    obtain ⟨memory, -, rfl⟩ := Option.map_eq_some_iff.mp group
    rfl
  refine ⟨number, grouped, g.entryFor core, ?_, ?_⟩
  · -- the doorbell group is in front, so the groups of the buffers are found one further
    rw [value, Router.coreTable, Nat.add_comm, List.getElem?_cons_succ, List.getElem?_map, found,
      Option.map_some]
  · rw [base, Buffer.toNat_ofNat_start fits]

/-- The transfer buffer of a buffer has its bytes. -/
theorem toNat_hostSize (planned : Planned c p bufs) {i : Nat} {b : Buffer}
    (given : bufs.moved[i]? = some b) {s : BufferSpec} (asked : c.moved[i]? = some s) {bytes : Nat}
    (known : s.byteSize? = some bytes) : (UInt64.ofNat bytes).toNat = b.size.toNat := by
  obtain ⟨s', name, asked', resolved, -⟩ := planned.exists_resolved given
  obtain rfl : s = s' := Option.some.inj (asked.symm.trans asked')
  have size : b.size.toNat = bytes := BufferSpec.toNat_of_checkedSize resolved.size known
  have below : bytes < 2 ^ 64 := by
    have := b.size.toNat_lt
    omega
  rw [size]
  exact UInt64.toNat_ofNat_of_lt' below

/-- The artifacts agree on every buffer that leaves the device. -/
theorem agreeAt (planned : Planned c p bufs) {t : ThreadPlan} {a : Artifacts}
    (described : NetworkDescriptor.Described c t a.network)
    (transfers : a.metadata.metadata.transfers = p.transfers.toList)
    (tables : a.metadata.metadata.coreTables = p.router.coreTables)
    (entries : a.program = p.descriptor) {i : Nat} {b : Buffer}
    (given : bufs.moved[i]? = some b) : ∃ t e x tensor, a.AgreeAt i t e x tensor := by
  obtain ⟨s, name, asked, -, direction⟩ := planned.exists_resolved given
  obtain ⟨host, bytes, known, tensorAt, bufferAt⟩ := described.place i s asked
  -- what is moved has the same place among all buffers, and its group is found there
  have inside : i < bufs.moved.length := (List.getElem?_eq_some_iff.mp given).1
  have among : bufs.all[i]? = some b := by
    rw [BufferSet.all, List.getElem?_append_left inside, given]
  have placed : p.buffers[i]? = some b := planned.getElem?_buffers among
  obtain ⟨group, grouped⟩ := planned.exists_group placed
  have fits : b.start < 2 ^ 32 := (planned.fits b (List.mem_of_getElem? placed)).1
  -- there are few enough doorbells for every number to fit
  have few : i < 281 := by
    have doorbells := planned.doorbells
    rw [BufferSet.all, List.length_append, firmwareSlots] at doorbells
    omega
  have below16 : i < 2 ^ 16 := by omega
  have below32 : i < 2 ^ 32 := by omega
  have below64 : slotOffset i < 2 ^ 64 := by
    rw [slotOffset, slotSize]
    omega
  have number : (UInt16.ofNat i).toNat = i := UInt16.toNat_ofNat_of_lt' below16
  refine ⟨p.handshake.transferOf i i b group, b.entry group (some i), _, _,
    { transferAt := ?_
      entryAt := ?_
      bufferAt := bufferAt
      tensorAt := tensorAt
      number := number
      size := rfl
      hostSize := planned.toNat_hostSize given asked known
      role := Buffer.role_eq_roleOf (planned.sorted.moved (List.mem_of_getElem? given))
      direction := direction.symm
      group := rfl
      doorbell := ⟨_, rfl, ?_, rfl⟩
      target := ⟨_, rfl, rfl, UInt32.toNat_ofNat_of_lt' below32, direction.symm⟩
      space := rfl
      offChip := fun off => ?_
      onChip := fun on table mem => ?_ }⟩
  · rw [transfers, planned.getElem?_transfers given grouped]
  · rw [entries, planned.getElem?_entries among grouped]
  · dsimp only [Buffer.entry]
    rw [UInt64.toNat_ofNat_of_lt' below64, Option.getD_some, number, slotOffset, slotSize,
      Nat.mul_comm]
  · exact planned.toNat_deviceOffset given fits ((AddressSpace.deviceSpace_eq_ddr_iff _).mp off)
  · have onChip := (AddressSpace.deviceSpace_eq_multicast_iff _).mp on
    rw [tables] at mem
    obtain ⟨value, grouped', entry, found, address⟩ :=
      planned.exists_base placed fits onChip mem
    obtain rfl : group = some value := Option.some.inj (grouped.symm.trans grouped')
    exact ⟨entry, found, address⟩

end Planned

/-! ## All of them -/

/-- No core runs more threads than the hardware has, and matrix threads are among them. -/
theorem ProgramConfig.bounds_of_threadPlan {c : ProgramConfig} {t : ThreadPlan}
    (h : c.threadPlan = .ok t) : t.total ≤ maxThreads ∧ t.matrix ≤ t.total := by
  obtain ⟨bounds, rfl⟩ := (c.threadPlan_eq_ok_iff t).mp h
  exact bounds

/-- A plan has as many threads as it was asked for. -/
theorem ProgramPlan.length_threadList (p : ProgramPlan) (entryPoint : UInt64)
    (matrices : p.threads.matrix ≤ p.threads.total) :
    (p.threadList entryPoint).length = p.threads.total := by
  rw [threadList, List.length_map, List.length_append, List.length_replicate,
    List.length_replicate, ThreadPlan.vector]
  omega

/-- The vector threads of a plan are those that drive the vector unit. -/
theorem ProgramPlan.countP_threadList (p : ProgramPlan) (entryPoint : UInt64) :
    ((p.threadList entryPoint).countP fun t => t.units = vectorUnit) = p.threads.vector := by
  have units : ((fun t : Thread => decide (t.units = vectorUnit)) ∘ fun u => ⟨entryPoint, u⟩)
      = fun u => decide (u = vectorUnit) := rfl
  rw [threadList, List.countP_map, units, List.countP_append, List.countP_replicate,
    List.countP_replicate, decide_eq_true rfl, if_pos rfl, decide_eq_false (by decide),
    if_neg Bool.false_ne_true, Nat.add_zero]

/-- The threads of a plan drive their units in the order of the thread groups. -/
theorem ProgramPlan.units_threadList (p : ProgramPlan) (entryPoint : UInt64) :
    (p.threadList entryPoint).map (·.units)
      = (List.replicate p.threads.vector (0 : UInt32) ++ List.replicate p.threads.matrix 1).map
        fun group => if group = 0 then vectorUnit else matrixUnit := by
  have units : ((fun t : Thread => t.units) ∘ fun u => ⟨entryPoint, u⟩) = id := rfl
  rw [threadList, List.map_map, units, List.map_id, List.map_append, List.map_replicate,
    List.map_replicate, if_pos rfl, if_neg (by decide)]

namespace Planned

variable {c : ProgramConfig} {p : ProgramPlan} {bufs : BufferSet}

/-- The ring is behind all buffers. -/
theorem toNat_ringIndex (planned : Planned c p bufs) :
    p.descriptor.ringIndex.toNat = bufs.all.length := by
  have doorbells := planned.doorbells
  rw [firmwareSlots] at doorbells
  rw [planned.descriptor]
  dsimp only
  rw [toNat_clamp32]
  omega

/-- The loader counts the threads of the plan. -/
theorem toNat_threads (planned : Planned c p bufs) :
    p.descriptor.threads.toNat = p.threads.total := by
  have few := (ProgramConfig.bounds_of_threadPlan planned.threads).1
  rw [maxThreads] at few
  have below : p.threads.total < 2 ^ 32 := by omega
  rw [planned.descriptor]
  exact UInt32.toNat_ofNat_of_lt' below

/-- The ring lies in the scratch memory behind the dummy descriptor, with 256 bytes for each
thread. -/
theorem exists_ring (planned : Planned c p bufs) :
    ∃ e, p.descriptor.buffers[p.descriptor.ringIndex.toNat]? = some e ∧ e.location = .l2tcm ∧
      e.role = .internal ∧ e.offset.toNat = 1280 ∧
      e.size.toNat = 256 * p.descriptor.threads.toNat := by
  have few := (ProgramConfig.bounds_of_threadPlan planned.threads).1
  rw [maxThreads] at few
  have pieces := planned.reservation.trans (Reservation.ofThreads_eq p.threads.total)
  have ring : p.ring c ∈ p.buffers := by
    rw [planned.buffers]
    exact List.mem_append_right _ List.mem_cons_self
  rw [planned.toNat_ringIndex, planned.getElem?_entries_ring, planned.toNat_threads]
  refine ⟨_, rfl, rfl, rfl, ?_, ?_⟩
  · dsimp only [Buffer.entry]
    rw [Buffer.toNat_ofNat_start (planned.fits _ ring).1, ProgramPlan.ring, ringBuffer, pieces]
    rfl
  · dsimp only [Buffer.entry, ProgramPlan.ring, ringBuffer]
    rw [toNat_clamp32, pieces]
    dsimp only
    omega

end Planned

/-- **The artifacts of a configuration agree**, whenever they can be generated. -/
theorem ProgramConfig.agree_of_generate {c : ProgramConfig} {entryPoint : UInt64} {a : Artifacts}
    (h : c.generate entryPoint = .ok a) : a.Agree c entryPoint := by
  obtain ⟨p, plan, h⟩ := bind_eq_ok.mp h
  obtain ⟨network, host, h⟩ := bind_eq_ok.mp h
  obtain ⟨doc, written, h⟩ := bind_eq_ok.mp h
  cases h
  obtain ⟨bufs, planned⟩ := planned_of_plan (mapError_eq_ok.mp plan)
  obtain ⟨t, described⟩ := NetworkDescriptor.described_of_ofConfig (mapError_eq_ok.mp host)
  obtain rfl : p.threads = t := Except.ok.inj (planned.threads.symm.trans described.threadPlan)
  obtain ⟨image, f, document⟩ := planned.metadata_of_writeMetadata written
  obtain ⟨few, matrices⟩ := bounds_of_threadPlan planned.threads
  rw [maxThreads] at few
  -- what is read from the document is read from the plan
  have transfers : doc.metadata.transfers = p.transfers.toList := by rw [document]; rfl
  have tables : doc.metadata.coreTables = p.router.coreTables := by rw [document]; rfl
  have threads : doc.metadata.threads = p.threadList entryPoint := by rw [document]; rfl
  have cores : doc.metadata.cores.toNat = c.cores.toNat := by
    have bound := planned.cores_bounds.2
    rw [maxCores] at bound
    have below : c.cores.toNat < 2 ^ 16 := by omega
    rw [document]
    show (UInt16.ofNat p.router.cores).toNat = c.cores.toNat
    rw [planned.router]
    exact UInt16.toNat_ofNat_of_lt' below
  exact
    { transferCount := by rw [transfers, planned.length_transfers, planned.length_moved]
      bufferCount := by rw [described.count, ProgramConfig.moved, List.length_append]
      entryCount := by rw [planned.length_entries, planned.length_all]
      ringIndex := by rw [planned.toNat_ringIndex, planned.length_all]
      ring := planned.exists_ring
      place := fun i inside => by
        rw [← planned.length_moved] at inside
        exact planned.agreeAt described transfers tables rfl (List.getElem?_eq_getElem inside)
      threadCount := by rw [threads, p.length_threadList entryPoint matrices, planned.toNat_threads]
      hostThreads := by rw [described.threads, planned.descriptor]
      entryPoint := fun t mem => by
        rw [threads] at mem
        obtain ⟨units, -, rfl⟩ := List.mem_map.mp mem
        rfl
      vectorThreads := by
        have below : p.threads.vector < 2 ^ 32 := by
          rw [ThreadPlan.vector]
          omega
        rw [threads, p.countP_threadList, described.vectorThreads]
        exact (UInt32.toNat_ofNat_of_lt' below).symm
      threadUnits := by rw [threads, p.units_threadList, described.threadGroups]
      cores := by rw [cores, described.cores]
      coreTables := by
        rw [tables, Router.coreTables, List.length_map, List.length_range, planned.router,
          described.cores] }

/-- The artifacts of the small configuration can be generated, and agree. -/
theorem ProgramConfig.agree_of_generate_small :
    ∃ a, small.generate 0x1000 = .ok a ∧ a.Agree small 0x1000 := by
  have generated : (small.generate 0x1000).isOk = true := by decide +kernel
  cases given : small.generate 0x1000 with
  | ok a => exact ⟨a, rfl, agree_of_generate given⟩
  | error fault =>
    rw [given] at generated
    cases generated

end ComputePlanner
