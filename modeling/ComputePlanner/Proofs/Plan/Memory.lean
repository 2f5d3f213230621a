import ComputePlanner.Proofs.Plan.Acceptance
import ComputePlanner.Proofs.Plan.Document
import Mathlib.Order.CompletePartialOrder
import Mathlib.Order.Interval.Set.Disjoint

/-! # The memory of a plan
Buffers say themselves where they lie, and the descriptor ring is never placed at all. That they do
not get into each other's way is up to the checks of planning: every buffer in the scratch memory
begins behind the reserved part, every address is a sum that nothing cuts off, and the sizes that the
runtime is told reach exactly as far as the furthest buffer. **`ProgramPlan.LaidOut`** says all this
of a plan.

Main statement: **`ProgramConfig.laidOut_of_plan`**. -/

namespace ComputePlanner

/-- The addresses that a buffer occupies. -/
def Buffer.span (b : Buffer) : Set Nat :=
  Set.Ico (b.baseOffset.toNat + b.deviceOffset.toNat)
    (b.baseOffset.toNat + b.deviceOffset.toNat + b.size.toNat)

namespace Reservation

/-- The addresses of the reserved part. -/
def span (r : Reservation) : Set Nat := Set.Ico 0 r.stop

/-- The addresses of the doorbell window. -/
def windowSpan (r : Reservation) : Set Nat := Set.Ico 0 r.doorbellWindow

/-- The addresses of the dummy descriptor. -/
def dummySpan (r : Reservation) : Set Nat :=
  Set.Ico r.dummyOffset (r.dummyOffset + transferDescriptorSize)

end Reservation

/-- What a plan does with memory, where `bs` are the buffers that the configuration asks for. -/
structure ProgramPlan.LaidOut (p : ProgramPlan) (c : ProgramConfig) (bs : List Buffer) : Prop where
  asked : c.resolveAll = .ok bs
  /-- The ring is behind the others. -/
  buffers : p.buffers = bs ++ [p.ring c]
  /-- The doorbell window, the dummy descriptor and the ring lie in the reserved part. -/
  window : p.reservation.windowSpan ⊆ p.reservation.span
  dummy : p.reservation.dummySpan ⊆ p.reservation.span
  ring : (p.ring c).space = .l2tcm ∧ (p.ring c).span ⊆ p.reservation.span
  /-- No two of them overlap. -/
  windowDummy : Disjoint p.reservation.windowSpan p.reservation.dummySpan
  windowRing : Disjoint p.reservation.windowSpan (p.ring c).span
  dummyRing : Disjoint p.reservation.dummySpan (p.ring c).span
  /-- No buffer in the scratch memory overlaps the reserved part. -/
  clear : ∀ b ∈ bs, b.space = .l2tcm → Disjoint b.span p.reservation.span
  /-- Where a buffer starts and ends is a sum that fits 32 bits, so nothing is cut off. -/
  summed : ∀ b ∈ p.buffers, b.start = b.baseOffset.toNat + b.deviceOffset.toNat ∧
    b.stop = b.baseOffset.toNat + b.deviceOffset.toNat + b.size.toNat ∧
    b.stop? = some b.stop ∧ b.stop < 2 ^ 32
  /-- Every buffer lies in what is used of its memory. -/
  inside : ∀ b ∈ p.buffers, b.span ⊆ Set.Ico 0 (p.resources.used b.space)
  /-- The scratch memory is used up to the furthest end in it, or else the reserved part is. -/
  l2tcm : IsGreatest (insert p.reservation.stop (stops .l2tcm bs)) p.resources.l2tcm
  l2tcmFits : p.resources.l2tcm ≤ mebibyte
  /-- The vector memory is used up to the furthest end in it, or else one byte is. -/
  vtcm : IsGreatest (insert 1 (stops .vtcm bs)) p.resources.vtcm
  vtcmFits : p.resources.vtcm ≤ 8 * mebibyte
  /-- The memory off the chip is used up to the furthest end in it. -/
  ddr : IsGreatest (insert 0 (stops .ddr bs)) p.resources.ddr
  ddrFits : p.resources.ddr < 2 ^ 32

/-- The document says how much is used of each memory. -/
structure Metadata.SizedBy (md : Metadata) (r : Resources) : Prop where
  l2tcm : md.l2tcmSize.toNat = r.l2tcm
  vtcm : md.vtcmSize.toNat = r.vtcm
  ddr : md.staticDdr.size.toNat = r.ddr

namespace Planned

variable {c : ProgramConfig} {p : ProgramPlan} {bufs : BufferSet}

/-- What is used of a memory is the furthest end in it, unless the least use is further. -/
theorem isGreatest_used (planned : Planned c p bufs) (space : AddressSpace) :
    IsGreatest (insert (Layout.leastUse p.reservation space) (stops space bufs.all))
      (p.resources.used space) := by
  rw [planned.reservation_eq, ← Layout.used_ofReservation, ← Set.union_singleton,
    planned.resources_eq]
  exact Layout.isGreatest_used isGreatest_singleton bufs.all

/-- The ring begins behind the dummy descriptor and ends with the reserved part. -/
theorem ring_bounds (planned : Planned c p bufs) :
    (p.ring c).baseOffset.toNat + (p.ring c).deviceOffset.toNat = 1280 ∧
    1280 + (p.ring c).size.toNat = p.reservation.stop ∧ p.reservation.stop ≤ mebibyte := by
  have few := planned.few_threads
  have size := toNat_size_ringBuffer few c.cores.toNat c.internals.length
  rw [maxThreads] at few
  rw [ProgramPlan.ring, planned.reservation_eq, toNat_deviceOffset_ringBuffer, size,
    Reservation.stop_ofThreads, mebibyte]
  exact ⟨rfl, rfl, by omega⟩

/-- Every buffer ends below the addresses of 32 bits, the ring included. -/
theorem stop_lt (planned : Planned c p bufs) {b : Buffer} (mem : b ∈ p.buffers) :
    b.baseOffset.toNat + b.deviceOffset.toNat + b.size.toNat < 2 ^ 32 := by
  rw [planned.buffers] at mem
  rcases List.mem_append.mp mem with mem | mem
  · obtain ⟨s, name, resolved⟩ := planned.asked.exists_resolved mem
    exact resolved.stop_lt
  · obtain ⟨start, stop, small⟩ := planned.ring_bounds
    rw [mebibyte] at small
    rw [List.mem_singleton.mp mem]
    omega

/-- Every buffer ends in what is used of its memory. -/
theorem stop_le_used (planned : Planned c p bufs) {b : Buffer} (mem : b ∈ p.buffers) :
    b.baseOffset.toNat + b.deviceOffset.toNat + b.size.toNat ≤ p.resources.used b.space := by
  have furthest := (planned.isGreatest_used b.space).2
  have stop := Buffer.stop_eq (planned.stop_lt mem)
  rw [planned.buffers] at mem
  rcases List.mem_append.mp mem with mem | mem
  · rw [← stop]
    exact furthest (Set.mem_insert_of_mem _ ⟨b, mem, rfl, rfl⟩)
  · -- the ring is not placed, but it ends where the reserved part does
    obtain rfl := List.mem_singleton.mp mem
    obtain ⟨start, stop, -⟩ := planned.ring_bounds
    rw [start, stop]
    exact furthest (Set.mem_insert _ _)

/-- **Every plan is laid out safely.** -/
theorem laidOut (planned : Planned c p bufs) : p.LaidOut c bufs.all := by
  have pieces := planned.reservation.trans (Reservation.ofThreads_eq p.threads.total)
  obtain ⟨start, stop, -⟩ := planned.ring_bounds
  have ring : (p.ring c).span = Set.Ico 1280 p.reservation.stop := by
    rw [Buffer.span, start, stop]
  have window : p.reservation.windowSpan = Set.Ico 0 1124 := by
    rw [pieces, Reservation.windowSpan]
  have dummy : p.reservation.dummySpan = Set.Ico 1152 1168 := by
    rw [pieces, Reservation.dummySpan]
    rfl
  have below {b : Buffer} (mem : b ∈ bufs.all) :
      b.baseOffset.toNat + b.deviceOffset.toNat + b.size.toNat < 2 ^ 32 :=
    planned.stop_lt (planned.buffers ▸ List.mem_append_left _ mem)
  refine
    { asked := planned.asked.resolveAll
      buffers := planned.buffers
      window := ?_
      dummy := ?_
      ring := ⟨rfl, ?_⟩
      windowDummy := ?_
      windowRing := ?_
      dummyRing := ?_
      clear := fun b mem space => ?_
      summed := fun b mem => ?_
      inside := fun b mem => ?_
      l2tcm := planned.isGreatest_used .l2tcm
      l2tcmFits := planned.used_le (show AddressSpace.l2tcm.capacity? = _ from rfl)
      vtcm := planned.isGreatest_used .vtcm
      vtcmFits := planned.used_le (show AddressSpace.vtcm.capacity? = _ from rfl)
      ddr := planned.isGreatest_used .ddr
      ddrFits := ?_ }
  · rw [window]
    exact Set.Ico_subset_Ico_right (by omega)
  · rw [dummy]
    exact Set.Ico_subset_Ico (by omega) (by omega)
  · rw [ring]
    exact Set.Ico_subset_Ico_left (by omega)
  · rw [window, dummy, Set.Ico_disjoint_Ico]
    decide
  · rw [window, ring, Set.Ico_disjoint_Ico]
    omega
  · rw [dummy, ring, Set.Ico_disjoint_Ico]
    omega
  · have clear := (planned.placeable b mem).clear space
    rw [Buffer.start_eq (below mem)] at clear
    rw [Buffer.span, Reservation.span, Set.Ico_disjoint_Ico]
    omega
  · have fits := planned.stop_lt mem
    have stop := Buffer.stop_eq fits
    have address : b.stop? = some b.stop := by
      rw [stop, Buffer.stop?, Buffer.lastAddress, UInt64.size, if_pos (by omega)]
    exact ⟨Buffer.start_eq fits, stop, address, stop ▸ fits⟩
  · exact Set.Ico_subset_Ico (Nat.zero_le _) (planned.stop_le_used mem)
  · rcases (planned.isGreatest_used .ddr).1 with least | ⟨b, mem, -, stop⟩
    · show p.resources.used .ddr < _
      rw [least]
      show 0 < 2 ^ 32
      decide
    · show p.resources.used .ddr < _
      rw [← stop, Buffer.stop_eq (below mem)]
      exact below mem

/-- The runtime is told what is used of the memories. -/
theorem sizedBy (planned : Planned c p bufs) {entryPoint constants : UInt64} {doc : Document}
    (written : c.writeMetadata p entryPoint constants = .ok doc) :
    doc.metadata.SizedBy p.resources := by
  obtain ⟨image, f, document⟩ := planned.metadata_of_writeMetadata written
  have laidOut := planned.laidOut
  have l2tcm := laidOut.l2tcmFits
  have vtcm := laidOut.vtcmFits
  have ddr := laidOut.ddrFits
  rw [mebibyte] at l2tcm vtcm
  rw [document]
  exact
    { l2tcm := UInt32.toNat_ofNat_of_lt' (by rw [UInt32.size]; omega)
      vtcm := UInt32.toNat_ofNat_of_lt' (by rw [UInt32.size]; omega)
      ddr := UInt64.toNat_ofNat_of_lt' (by rw [UInt64.size]; omega) }

end Planned

/-- **The memory of every plan is safe.** The buffers in the scratch memory keep clear of the doorbell
window, the dummy descriptor and the ring, which keep clear of each other; no address is cut off; and
the sizes of the memories, which the runtime is told, are the furthest ends in them. -/
theorem ProgramConfig.laidOut_of_plan {c : ProgramConfig} {p : ProgramPlan} (h : c.plan = .ok p) :
    (∃ bs, p.LaidOut c bs) ∧
      (∀ entryPoint doc, c.generateMetadata entryPoint = .ok doc →
        doc.metadata.SizedBy p.resources) ∧
      ∀ entryPoint a, c.generate entryPoint = .ok a →
        a.metadata.metadata.SizedBy p.resources := by
  obtain ⟨bufs, planned⟩ := c.planned_of_plan h
  refine ⟨⟨bufs.all, planned.laidOut⟩, fun entryPoint doc written => ?_,
    fun entryPoint a generated => ?_⟩
  · obtain ⟨p', plan, written⟩ := bind_eq_ok.mp written
    obtain rfl : p = p' := Except.ok.inj (h.symm.trans (mapError_eq_ok.mp plan))
    exact planned.sizedBy written
  · obtain ⟨p', plan, generated⟩ := bind_eq_ok.mp generated
    obtain ⟨network, -, generated⟩ := bind_eq_ok.mp generated
    obtain ⟨doc, written, generated⟩ := bind_eq_ok.mp generated
    obtain rfl : p = p' := Except.ok.inj (h.symm.trans (mapError_eq_ok.mp plan))
    cases generated
    exact planned.sizedBy written

/-- The small configuration has a plan whose memory is safe: its internal buffer, its input on the
chip and its output off the chip are the furthest in their memories. -/
theorem ProgramConfig.laidOut_of_plan_small :
    ∃ p doc, small.plan = .ok p ∧ small.generateMetadata 0x1000 = .ok doc ∧
      (∃ bs, p.LaidOut small bs) ∧ doc.metadata.SizedBy p.resources ∧
      p.resources = ⟨8208, 4166, 1040⟩ := by
  have planned : small.plan.map (·.resources) = .ok ⟨8208, 4166, 1040⟩ := by decide +kernel
  have written : (small.generateMetadata 0x1000).isOk = true := by decide +kernel
  cases given : small.plan with
  | ok p =>
    cases doc : small.generateMetadata 0x1000 with
    | ok doc' =>
      obtain ⟨laidOut, sized, -⟩ := laidOut_of_plan given
      rw [given] at planned
      exact ⟨p, doc', rfl, rfl, laidOut, sized 0x1000 doc' doc, Except.ok.inj planned⟩
    | error fault =>
      rw [doc] at written
      cases written
  | error fault =>
    rw [given] at planned
    cases planned

end ComputePlanner
