import ComputePlanner.Proofs.Bytes.Place
import ComputePlanner.Proofs.InitImage.Regions
import ComputePlanner.Proofs.Plan.Agreement
import ComputePlanner.Proofs.Plan.Generation

/-! # The doorbells of a plan
A buffer's place in the order of processing is the number of its doorbell slot: in the init image,
in its entry for the loader and in the doorbell that its transfer rings. **`Metadata.Signals`** says
how the three go together in a document, byte by byte for the image, and that nothing of the image is
lost when only its regions are copied.

Main statement: **`ProgramConfig.signals_of_plan`**. -/

namespace ComputePlanner

namespace ProgramConfig

/-- Buffers that are configured. -/
def bufferCount (c : ProgramConfig) : Nat :=
  c.inputs.length + c.outputs.length + c.internals.length

/-- The role of the buffer in a place, in the order in which buffers are processed. -/
def roleAt (c : ProgramConfig) (i : Nat) : BufferRole :=
  if i < c.inputs.length then .input
  else if i < c.inputs.length + c.outputs.length then .output
  else .internal

end ProgramConfig

/-- How the document of a plan sets up and rings the doorbells of a configuration. -/
structure Metadata.Signals (md : Metadata) (p : ProgramPlan) (c : ProgramConfig) : Prop where
  length : md.initImage.length = 1168
  /-- The slot of an output starts out rung, that of any other buffer cleared. -/
  slots : ∀ i < c.bufferCount, (md.initImage.drop (4 * i)).take 4
    = word32 (if c.roleAt i = .output then 1 else 0)
  /-- The dummy descriptor ends the image. -/
  dummy : md.initImage.drop 1152 = TransferDescriptor.dummy.encode
  /-- The flag of the dummy descriptor is the only byte behind the slots that is not zero. -/
  done : md.initImage[1159]? = some 0x80
  clear : ∀ i < 1168, 4 * c.bufferCount ≤ i → i ≠ 1159 → md.initImage[i]? = some 0
  exitWord : (md.initImage.drop 1120).take 4 = word32 0
  /-- The loader is told of a buffer's place as its slot. -/
  waitSlots : ∀ i < c.bufferCount, ∃ e, p.descriptor.buffers[i]? = some e ∧
    e.role = c.roleAt i ∧ e.waitSlot.toNat = i
  /-- There is a transfer for every buffer that leaves the device. -/
  transferCount : md.transfers.length = c.inputs.length + c.outputs.length
  /-- It rings the doorbell in the slot of the buffer in its place. -/
  doorbells : ∀ (i : Nat) (t : Transfer), md.transfers[i]? = some t →
    ∃ op, t.doorbells = [op] ∧ op.width.bytes = 4 ∧ op.offset.toNat = 4 * i
  /-- No two transfers write to the same bytes. -/
  apart : ∀ (i j : Nat) (t t' : Transfer), md.transfers[i]? = some t → md.transfers[j]? = some t' →
    i ≠ j → ∀ op ∈ t.doorbells, ∀ op' ∈ t'.doorbells,
      op.offset.toNat + op.width.bytes ≤ op'.offset.toNat ∨
        op'.offset.toNat + op'.width.bytes ≤ op.offset.toNat
  /-- No transfer writes to the exit slot or behind it. -/
  beforeExit : ∀ t ∈ md.transfers, ∀ op ∈ t.doorbells,
    op.offset.toNat + op.width.bytes ≤ md.exitDoorbell.toNat
  exitDoorbell : md.exitDoorbell.toNat = 1120
  exitSlot : md.exitDoorbell.toNat = 4 * p.descriptor.exitSlot.toNat
  /-- The regions are all that has to be copied. -/
  regions : copyRegions md.initImage (List.replicate md.initImage.length 0) md.initRegions
    = md.initImage

/-! ## The image -/

/-- The dummy descriptor is zero except for its flag. -/
theorem getElem?_encode_dummy : ∀ j < transferDescriptorSize,
    TransferDescriptor.dummy.encode[j]? = some (if j = 7 then 0x80 else 0) := by
  decide

namespace Planned

variable {c : ProgramConfig} {p : ProgramPlan} {bufs : BufferSet}

/-- A buffer has the role of its place. -/
theorem role_eq_roleAt (planned : Planned c p bufs) {i : Nat} {b : Buffer}
    (given : bufs.all[i]? = some b) : b.role = c.roleAt i := by
  have inputs := ((resolveFrom_eq_ok_iff ..).mp planned.inputs).1
  have moved := planned.length_moved
  rw [ProgramConfig.roleAt]
  by_cases first : i < bufs.moved.length
  · rw [BufferSet.all, List.getElem?_append_left first, BufferSet.moved] at given
    by_cases input : i < bufs.inputs.length
    · rw [List.getElem?_append_left input] at given
      rw [if_pos (inputs ▸ input)]
      exact planned.sorted.inputs b (List.mem_of_getElem? given)
    · rw [List.getElem?_append_right (Nat.le_of_not_lt input)] at given
      rw [if_neg (inputs ▸ input), if_pos (moved ▸ first)]
      exact planned.sorted.outputs b (List.mem_of_getElem? given)
  · rw [BufferSet.all, List.getElem?_append_right (Nat.le_of_not_lt first)] at given
    rw [if_neg (by omega), if_neg (moved ▸ first)]
    exact planned.sorted.internals b (List.mem_of_getElem? given)

/-- There are as many slots as buffers, and they lie in front of the exit slot. -/
theorem length_slots (planned : Planned c p bufs) :
    p.handshake.slots.length = c.bufferCount ∧ c.bufferCount ≤ 280 := by
  have length : p.handshake.slots.length = c.bufferCount := by
    rw [planned.handshake]
    exact (List.length_map ..).trans planned.length_all
  exact ⟨length, length ▸ planned.length_slots_le⟩

/-- A slot has the first value of the buffer in its place. -/
theorem getElem?_slots (planned : Planned c p bufs) {i : Nat} (inside : i < c.bufferCount) :
    p.handshake.slots[i]? = some (if c.roleAt i = .output then 1 else 0) := by
  have given := List.getElem?_eq_getElem (planned.length_all ▸ inside : i < bufs.all.length)
  rw [planned.handshake]
  dsimp only
  rw [List.getElem?_map, given, Option.map_some, Handshake.firstValue, planned.role_eq_roleAt given]
  rfl

/-- In front of the dummy descriptor, the image holds the slots and zeros. -/
theorem image_eq (planned : Planned c p bufs) :
    p.image = p.handshake.slots.flatMap word32
      ++ (List.replicate (1152 - 4 * c.bufferCount) 0 ++ TransferDescriptor.dummy.encode) := by
  have pieces := planned.reservation.trans (Reservation.ofThreads_eq p.threads.total)
  rw [ProgramPlan.image, planned.length_slots.1, pieces, List.append_assoc]

/-- From anywhere behind the slots up to the dummy descriptor, the image is zero. -/
theorem drop_image (planned : Planned c p bufs) {start : Nat} (behind : 4 * c.bufferCount ≤ start)
    (before : start ≤ 1152) :
    p.image.drop start
      = List.replicate (1152 - start) 0 ++ TransferDescriptor.dummy.encode := by
  have words : (p.handshake.slots.flatMap word32).length = 4 * c.bufferCount := by
    rw [length_words, planned.length_slots.1]
  have left : 1152 - 4 * c.bufferCount - (start - 4 * c.bufferCount) = 1152 - start := by omega
  rw [planned.image_eq, List.drop_append, List.drop_of_length_le (words ▸ behind), words,
    List.nil_append, List.drop_append_of_le_length, List.drop_replicate, left]
  rw [List.length_replicate]
  omega

/-- Behind the slots, the image is zero except for the flag of the dummy descriptor. -/
theorem getElem?_image (planned : Planned c p bufs) {i : Nat} (inside : i < 1168)
    (behind : 4 * c.bufferCount ≤ i) :
    p.image[i]? = some (if i = 1159 then 0x80 else 0) := by
  obtain ⟨length, few⟩ := planned.length_slots
  rw [planned.image_eq, List.getElem?_append_right (by rw [length_words, length]; exact behind),
    length_words, length]
  by_cases front : i < 1152
  · rw [List.getElem?_append_left (by rw [List.length_replicate]; omega), List.getElem?_replicate,
      if_pos (by omega), if_neg (by omega)]
  · have place : i - 4 * c.bufferCount - (1152 - 4 * c.bufferCount) = i - 1152 := by omega
    have flag : i - 1152 = 7 ↔ i = 1159 := by omega
    rw [List.getElem?_append_right (by rw [List.length_replicate]; omega), List.length_replicate,
      place, getElem?_encode_dummy _ (by rw [transferDescriptorSize]; omega)]
    simp only [flag]

/-! ## Transfers -/

/-- A transfer of a plan rings one doorbell, the slot of the buffer in its place, which lies in front
of the exit slot. -/
theorem doorbells_of_getElem? (planned : Planned c p bufs) {i : Nat} {t : Transfer}
    (given : p.transfers.toList[i]? = some t) :
    i < 280 ∧ ∃ op, t.doorbells = [op] ∧ op.width.bytes = 4 ∧ op.offset.toNat = 4 * i := by
  have inside : i < bufs.moved.length :=
    planned.length_transfers ▸ (List.getElem?_eq_some_iff.mp given).1
  have few : i < 280 := by
    have doorbells := planned.doorbells
    rw [BufferSet.all, List.length_append, firmwareSlots] at doorbells
    omega
  have moved := List.getElem?_eq_getElem inside
  have among : bufs.all[i]? = some bufs.moved[i] := by
    rw [BufferSet.all, List.getElem?_append_left inside, moved]
  obtain ⟨group, grouped⟩ := planned.exists_group (planned.getElem?_buffers among)
  rw [planned.getElem?_transfers moved grouped] at given
  cases given
  refine ⟨few, _, rfl, rfl, ?_⟩
  rw [slotOffset, slotSize, Nat.mul_comm]
  exact UInt64.toNat_ofNat_of_lt' (by rw [UInt64.size]; omega)

/-- What a transfer of a plan rings lies in the slot of its place. -/
theorem slot_of_mem (planned : Planned c p bufs) {i : Nat} {t : Transfer}
    (given : p.transfers.toList[i]? = some t) {op : DoorbellOp} (rung : op ∈ t.doorbells) :
    i < 280 ∧ op.offset.toNat = 4 * i ∧ op.offset.toNat + op.width.bytes = 4 * (i + 1) := by
  obtain ⟨few, op', only, width, offset⟩ := planned.doorbells_of_getElem? given
  rw [only] at rung
  obtain rfl := List.mem_singleton.mp rung
  rw [width, offset]
  exact ⟨few, rfl, rfl⟩

/-- A document with the image and the transfers of a plan signals as configured. -/
theorem signals (planned : Planned c p bufs) {md : Metadata} (image : md.initImage = p.image)
    (regions : md.initRegions = nonZeroRegions p.image)
    (transfers : md.transfers = p.transfers.toList)
    (exitDoorbell : md.exitDoorbell = UInt64.ofNat (slotOffset exitSlot)) :
    md.Signals p c := by
  have few := planned.length_slots.2
  have length := planned.length_image
  have exit : md.exitDoorbell.toNat = 1120 := by
    rw [exitDoorbell]
    rfl
  have exitSlot : p.descriptor.exitSlot.toNat = 280 := by
    rw [planned.descriptor]
    rfl
  refine
    { length := image ▸ length
      slots := fun i inside => ?_
      dummy := ?_
      done := ?_
      clear := fun i inside behind other => ?_
      exitWord := ?_
      waitSlots := fun i inside => ?_
      transferCount := ?_
      doorbells := fun i t given => ?_
      apart := fun i j t t' given given' distinct op rung op' rung' => ?_
      beforeExit := fun t mem op rung => ?_
      exitDoorbell := exit
      exitSlot := by rw [exit, exitSlot]
      regions := ?_ }
  · rw [image, planned.image_eq]
    exact partAt_words (planned.getElem?_slots inside) _
  · rw [image, planned.drop_image (by omega) (Nat.le_refl _)]
    rfl
  · rw [image, planned.getElem?_image (by decide) (by omega), if_pos rfl]
  · rw [image, planned.getElem?_image inside behind, if_neg other]
  · -- the exit slot lies between the slots that are assigned and the dummy descriptor
    rw [image, planned.drop_image (by omega) (by decide)]
    rfl
  · have given := List.getElem?_eq_getElem (planned.length_all ▸ inside : i < bufs.all.length)
    obtain ⟨group, grouped⟩ := planned.exists_group (planned.getElem?_buffers given)
    refine ⟨_, planned.getElem?_entries given grouped, planned.role_eq_roleAt given, ?_⟩
    exact UInt16.toNat_ofNat_of_lt' (by rw [UInt16.size, Option.getD_some]; omega)
  · rw [transfers, planned.length_transfers, planned.length_moved]
  · exact (planned.doorbells_of_getElem? (transfers ▸ given)).2
  · rw [transfers] at given given'
    obtain ⟨-, start, stop⟩ := planned.slot_of_mem given rung
    obtain ⟨-, start', stop'⟩ := planned.slot_of_mem given' rung'
    omega
  · rw [transfers] at mem
    obtain ⟨i, given⟩ := List.getElem?_of_mem mem
    obtain ⟨before, -, stop⟩ := planned.slot_of_mem given rung
    rw [exit, stop]
    omega
  · rw [image, regions]
    exact copyRegions_nonZeroRegions (by rw [length]; decide)

end Planned

/-- **Every document of a plan signals as configured**, and is written unless the threads start at
address 0; it is the document of the artifacts, too. -/
theorem ProgramConfig.signals_of_plan {c : ProgramConfig} {p : ProgramPlan} (h : c.plan = .ok p)
    {entryPoint : UInt64} (nonzero : entryPoint ≠ 0) :
    ∃ doc, c.generateMetadata entryPoint = .ok doc ∧ doc.metadata.Signals p c ∧
      ∀ a, c.generate entryPoint = .ok a → a.metadata = doc ∧ a.program = p.descriptor := by
  obtain ⟨bufs, planned⟩ := planned_of_plan h
  obtain ⟨doc, written⟩ := planned.exists_writeMetadata planned.toNat_encodedSize_lt nonzero
  have generated := (generateMetadata_of_plan h entryPoint).trans written
  refine ⟨doc, generated, ?_, fun a all => ?_⟩
  · obtain rfl := planned.eq_of_writeMetadata written
    exact planned.signals rfl rfl rfl rfl
  · obtain ⟨-, same, program, -⟩ := (generate_eq_ok_iff h).mp all
    exact ⟨Except.ok.inj (same.symm.trans generated), program⟩

/-- The small configuration has a plan, and its document signals as configured. -/
theorem ProgramConfig.signals_of_plan_small :
    ∃ p doc, small.plan = .ok p ∧ (0x1000 : UInt64) ≠ 0 ∧
      small.generateMetadata 0x1000 = .ok doc ∧ doc.metadata.Signals p small := by
  obtain ⟨p, plan⟩ : ∃ p, small.plan = .ok p := exists_of_isOk (by decide +kernel)
  have nonzero : (0x1000 : UInt64) ≠ 0 := by decide
  obtain ⟨doc, written, signals, -⟩ := signals_of_plan plan nonzero
  exact ⟨p, doc, plan, nonzero, written, signals⟩

end ComputePlanner
