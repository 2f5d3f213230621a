import Mathlib.Data.Nat.Bitwise
import ComputePlanner.Proofs.Plan.Structure

/-! # Masks and the cores in them
The handshake waits for as many signals as a mask has bits, while it is cores that signal: those
that hold a buffer. Here a mask is read as the list of the cores in it (**`holders`**), whose length
is the number of its bits.

The loader is told of the same masks in 16 bits (**`Planned.toUInt32_coresOf`**). -/

namespace ComputePlanner

/-- The cores that hold one of the buffers of a role. -/
def holders (bs : List Buffer) (role : BufferRole) : List Nat :=
  (List.range 32).filter fun core => bs.any fun b => b.role = role && b.cores.toNat.testBit core

/-- A bit is set in a union of masks exactly if it is set in one of them. -/
theorem testBit_foldl_or (f : α → UInt32) (as : List α) (mask : UInt32) (i : Nat) :
    (as.foldl (fun mask a => mask ||| f a) mask).toNat.testBit i
      = (mask.toNat.testBit i || as.any fun a => (f a).toNat.testBit i) := by
  induction as generalizing mask with
  | nil => rw [List.foldl_nil, List.any_nil, Bool.or_false]
  | cons a as ih =>
    rw [List.foldl_cons, ih, UInt32.toNat_or, Nat.testBit_or, List.any_cons, Bool.or_assoc]

/-- A core is in the mask of a role exactly if it holds one of the buffers. -/
theorem Handshake.testBit_coresOf (role : BufferRole) (bs : List Buffer) (i : Nat) :
    (coresOf role bs).toNat.testBit i
      = bs.any fun b => b.role = role && b.cores.toNat.testBit i := by
  rw [coresOf, testBit_foldl_or, UInt32.toNat_zero, Nat.zero_testBit, Bool.false_or,
    List.any_filter]

/-- A mask has as many bits as cores hold one of the buffers. -/
theorem length_holders (bs : List Buffer) (role : BufferRole) :
    (holders bs role).length = coreTotal (Handshake.coresOf role bs) := by
  rw [holders, coreTotal, List.countP_eq_length_filter]
  simp only [Handshake.testBit_coresOf]

/-- A mask has at most 32 bits. -/
theorem coreTotal_le (mask : UInt32) : coreTotal mask ≤ 32 := by
  rw [coreTotal]
  exact (List.countP_le_length ..).trans (Nat.le_of_eq List.length_range)

/-- The loader's mask of a role has the bits of the entries of that role. -/
theorem ProgramDescriptor.testBit_coresOf (d : ProgramDescriptor) (role : BufferRole) (i : Nat) :
    (d.coresOf role).toUInt32.toNat.testBit i
      = d.buffers.any fun e => e.role = role && e.cores.toUInt32.toNat.testBit i := by
  -- it does not matter whether masks are widened before they are united or after
  have widened (es : List BufferEntry) (mask : UInt16) :
      (es.foldl (fun mask e => mask ||| e.cores) mask).toUInt32
        = es.foldl (fun mask e => mask ||| e.cores.toUInt32) mask.toUInt32 := by
    induction es generalizing mask with
    | nil => rfl
    | cons e es ih => rw [List.foldl_cons, List.foldl_cons, ih, UInt16.toUInt32_or]
  rw [coresOf, widened, testBit_foldl_or]
  show (Nat.testBit 0 i || _) = _
  rw [Nat.zero_testBit, Bool.false_or, List.any_filter]

namespace Planned

variable {c : ProgramConfig} {p : ProgramPlan} {bufs : BufferSet}

/-- The ring is neither an input nor an output, so it is in neither mask. -/
theorem coresOf_buffers (planned : Planned c p bufs) {role : BufferRole}
    (moved : role ≠ .internal) : Handshake.coresOf role p.buffers
      = Handshake.coresOf role bufs.all := by
  have other : (p.ring c).role ≠ role := fun same => moved same.symm
  rw [planned.buffers, Handshake.coresOf, List.filter_append,
    List.filter_cons_of_neg (by rwa [decide_eq_true_iff]), List.filter_nil, List.append_nil]
  rfl

/-- Every buffer has an entry of its role and on its cores. -/
theorem exists_entry (planned : Planned c p bufs) {b : Buffer} (mem : b ∈ p.buffers) :
    ∃ e ∈ p.descriptor.buffers, e.role = b.role ∧ e.cores = UInt16.ofNat b.cores.toNat := by
  rw [planned.buffers] at mem
  rcases List.mem_append.mp mem with mem | mem
  · obtain ⟨i, given⟩ := List.mem_iff_getElem?.mp mem
    obtain ⟨group, grouped⟩ := planned.exists_group (planned.getElem?_buffers given)
    exact ⟨_, List.mem_of_getElem? (planned.getElem?_entries given grouped), rfl, rfl⟩
  · rw [List.mem_singleton.mp mem]
    exact ⟨_, List.mem_of_getElem? planned.getElem?_entries_ring, rfl, rfl⟩

/-- Every entry is that of a buffer. -/
theorem exists_buffer (planned : Planned c p bufs) {e : BufferEntry}
    (mem : e ∈ p.descriptor.buffers) :
    ∃ b ∈ p.buffers, e.role = b.role ∧ e.cores = UInt16.ofNat b.cores.toNat := by
  rw [planned.descriptor] at mem
  rw [planned.buffers]
  rcases List.mem_append.mp mem with mem | mem
  · obtain ⟨i, inside, rfl⟩ := List.mem_mapIdx.mp mem
    exact ⟨_, List.mem_append_left _ (List.of_mem_zip (List.getElem_mem inside)).1, rfl, rfl⟩
  · rw [List.mem_singleton.mp mem]
    exact ⟨_, List.mem_append_right _ List.mem_cons_self, rfl, rfl⟩

/-- The loader is told of the masks that the handshake is planned with. -/
theorem toUInt32_coresOf (planned : Planned c p bufs) (role : BufferRole) :
    (p.descriptor.coresOf role).toUInt32 = Handshake.coresOf role p.buffers := by
  -- a mask that fits is not cut off
  have width {b : Buffer} (mem : b ∈ p.buffers) :
      (UInt16.ofNat b.cores.toNat).toUInt32.toNat = b.cores.toNat := by
    rw [UInt16.toNat_toUInt32]
    exact UInt16.toNat_ofNat_of_lt' (planned.fits b mem).2
  refine UInt32.toNat_inj.mp (Nat.eq_of_testBit_eq fun i => ?_)
  rw [ProgramDescriptor.testBit_coresOf, Handshake.testBit_coresOf, Bool.eq_iff_iff,
    List.any_eq_true, List.any_eq_true]
  simp only [Bool.and_eq_true, decide_eq_true_eq]
  constructor
  · rintro ⟨e, mem, role, bit⟩
    obtain ⟨b, mem, role', cores⟩ := planned.exists_buffer mem
    rw [cores, width mem] at bit
    exact ⟨b, mem, role'.symm.trans role, bit⟩
  · rintro ⟨b, mem, role, bit⟩
    obtain ⟨e, mem', role', cores⟩ := planned.exists_entry mem
    rw [← width mem, ← cores] at bit
    exact ⟨e, mem', role'.trans role, bit⟩

end Planned

end ComputePlanner
