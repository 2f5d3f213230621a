import ComputePlanner.Proofs.Handshake.Masks
import ComputePlanner.Proofs.Plan.Agreement
import ComputePlanner.Proofs.Plan.Generation
import ComputePlanner.Proofs.Plan.Multicast

/-! # Which buffers can be had
Whether a buffer can be had on the cores of a program is said here in the numbers that are asked for:
its bytes are the exact product of its dimensions, its end is the exact sum, its cores are a set. The
checks work with words that may overflow on the way, and with a mask in which repeated cores collapse.
The two agree (**`BufferSpec.Resolvable`**), and what is resolved has the exact size and the exact set
of cores (**`BufferSpec.Settles`**).

Main statement: **`BufferSpec.exists_resolve_iff`**. -/

namespace ComputePlanner

namespace BufferSpec

/-- Bytes of a buffer: those of an element, as often as the dimensions say. -/
def exactSize (s : BufferSpec) : Nat := s.type.size * (s.dims.map (·.toNat)).prod

/-- A core holds a buffer: it is one of those that the buffer names, or any of the program's if it names
none. -/
def HeldBy (s : BufferSpec) (cores : UInt32) (core : Nat) : Prop :=
  if s.cores = [] then core < cores.toNat else ∃ named ∈ s.cores, named.toNat = core

/-- What a buffer needs to be had in a role, on so many cores. -/
structure Resolvable (s : BufferSpec) (role : BufferRole) (cores : UInt32) : Prop where
  /-- It has elements. -/
  elements : s.dims ≠ [] ∧ 0 ∉ s.dims
  size : s.exactSize < 2 ^ 32
  /-- Every core that it names is one of the program's. -/
  named : ∀ core ∈ s.cores, core < cores
  /-- On the chip, its base group starts on a page. -/
  aligned : s.space.isOnChip = true → 4096 ∣ s.baseOffset.toNat
  /-- On the chip, an output is held by one core. -/
  single : s.space.isOnChip = true → role = .output → ∃! core, s.HeldBy cores core
  /-- Off the chip, its base group starts at 0. -/
  base : s.space.isOnChip = false → s.baseOffset = 0
  stop : s.baseOffset.toNat + s.deviceOffset.toNat + s.exactSize < 2 ^ 32
  /-- If it is transferred, its fences are flags. -/
  fences : role ≠ .internal → (s.inFence = 0 ∨ s.inFence = 1) ∧ (s.outFence = 0 ∨ s.outFence = 1)
  inputOnly : s.allowPartial = true → role = .input

/-- What is settled when a buffer is resolved on so many cores. -/
structure Settles (s : BufferSpec) (cores : UInt32) (b : Buffer) : Prop where
  size : b.size.toNat = s.exactSize
  /-- The mask has the bits of the cores that hold the buffer. -/
  mask : ∀ core, b.cores.toNat.testBit core = true ↔ s.HeldBy cores core
  held : b.cores ≠ 0
  /-- No bit is that of a core that the program does not have. -/
  below : b.cores.toNat < 2 ^ cores.toNat

end BufferSpec

/-! ## Products -/

/-- A product that is computed is exact. -/
theorem eq_of_foldlM_checkedMul {dims : List UInt64} {start size : Nat}
    (computed : dims.foldlM (fun size d => checkedMul size d.toNat) start = some size) :
    size = start * (dims.map (·.toNat)).prod := by
  induction dims generalizing start with
  | nil =>
    obtain rfl := Option.some.inj computed
    rw [List.map_nil, List.prod_nil, Nat.mul_one]
  | cons d dims ih =>
    rw [List.foldlM_cons, Option.bind_eq_bind, Option.bind_eq_some_iff] at computed
    obtain ⟨next, first, rest⟩ := computed
    rw [checkedMul] at first
    split at first
    · obtain rfl := Option.some.inj first
      rw [ih rest, List.map_cons, List.prod_cons, Nat.mul_assoc]
    · cases first

/-- A product is positive exactly if none of its factors is zero. -/
theorem prod_pos_iff {dims : List UInt64} : 0 < (dims.map (·.toNat)).prod ↔ 0 ∉ dims := by
  rw [List.prod_pos_iff_forall_pos_nat, List.forall_mem_map]
  constructor
  · exact fun positive mem => Nat.lt_irrefl 0 (positive 0 mem)
  · intro nonzero d mem
    refine Nat.pos_of_ne_zero fun zero => nonzero ?_
    rwa [← show d = 0 from UInt64.toNat_inj.mp zero]

/-- A product without zeros is computed if an address holds it, since the products on the way are no
larger. -/
theorem foldlM_checkedMul {dims : List UInt64} {start : Nat} (nonzero : 0 ∉ dims)
    (small : start * (dims.map (·.toNat)).prod < UInt64.size) :
    dims.foldlM (fun size d => checkedMul size d.toNat) start
      = some (start * (dims.map (·.toNat)).prod) := by
  induction dims generalizing start with
  | nil =>
    rw [List.map_nil, List.prod_nil, Nat.mul_one]
    rfl
  | cons d dims ih =>
    obtain ⟨-, others⟩ := not_or.mp (mt List.mem_cons.mpr nonzero)
    rw [List.map_cons, List.prod_cons, ← Nat.mul_assoc] at small ⊢
    have first : start * d.toNat < UInt64.size :=
      Nat.lt_of_le_of_lt (Nat.le_mul_of_pos_right _ (prod_pos_iff.mpr others)) small
    rw [List.foldlM_cons, checkedMul, if_pos first]
    exact ih others small

/-- An element has bytes. -/
theorem ElementType.size_pos (t : ElementType) : 0 < t.size := by
  cases t <;> decide

/-! ## Masks, fences and ends -/

/-- Cores can be added to a mask exactly if each is one of the program's; their bits are added. -/
theorem addCores_eq_ok_iff {cores mask mask' : UInt32} {held : List UInt32} :
    addCores cores mask held = .ok mask' ↔
      (∀ core ∈ held, core < cores) ∧
        mask' = held.foldl (fun mask core => mask ||| coreBit core) mask := by
  induction held generalizing mask with
  | nil =>
    rw [addCores, Except.ok.injEq, List.foldl_nil, eq_comm]
    exact (and_iff_right (List.forall_mem_nil _)).symm
  | cons core held ih =>
    rw [addCores, ite_eq_ok_iff, ih, List.forall_mem_cons, List.foldl_cons, and_assoc]

/-- Added to no others, cores have their bits in the mask. -/
theorem testBit_foldl_coreBit {held : List UInt32} (few : ∀ core ∈ held, core.toNat < 32) (i : Nat) :
    (held.foldl (fun mask core => mask ||| coreBit core) 0).toNat.testBit i = true ↔
      ∃ core ∈ held, core.toNat = i := by
  rw [testBit_foldl_or, UInt32.toNat_zero, Nat.zero_testBit, Bool.false_or, List.any_eq_true]
  refine exists_congr fun core => and_congr_right fun mem => ?_
  rw [toNat_coreBit (few core mem), Nat.testBit_two_pow, decide_eq_true_eq]

/-- A mask is that of a single core exactly if it has one bit. -/
theorem isSingleCore_iff (mask : UInt32) :
    isSingleCore mask = true ↔ ∃! core, mask.toNat.testBit core = true := by
  -- in numbers, a mask is a power of two
  have power : isSingleCore mask = true ↔ mask.toNat.isPowerOfTwo := by
    rw [← Nat.ne_zero_and_sub_one_eq_zero_iff_isPowerOfTwo, isSingleCore, Bool.and_eq_true,
      decide_eq_true_eq, decide_eq_true_eq]
    have zero : mask ≠ 0 ↔ mask.toNat ≠ 0 := not_congr UInt32.toNat_inj.symm
    rw [zero]
    refine and_congr_right fun some => ?_
    have less : (mask - 1).toNat = mask.toNat - 1 :=
      UInt32.toNat_sub_of_le mask 1 (UInt32.le_iff_toNat_le.mpr (Nat.pos_of_ne_zero some))
    rw [← UInt32.toNat_inj, UInt32.toNat_and, less, UInt32.toNat_zero]
  rw [power]
  constructor
  · rintro ⟨core, same⟩
    rw [same]
    refine ⟨core, Nat.testBit_two_pow_self, fun other (set : (2 ^ core).testBit other = true) => ?_⟩
    rw [Nat.testBit_two_pow, decide_eq_true_eq] at set
    exact set.symm
  · rintro ⟨core, set, only⟩
    refine ⟨core, Nat.eq_of_testBit_eq fun other => ?_⟩
    rw [Nat.testBit_two_pow, Bool.eq_iff_iff, decide_eq_true_eq]
    constructor
    · intro set'
      exact (only other set').symm
    · rintro rfl
      exact set

/-- A fence is a flag exactly if it is 0 or 1. -/
theorem exists_fenceFlag_iff (point : FencePoint) (value : UInt32) :
    (∃ flag, fenceFlag point value = .ok flag) ↔ value = 0 ∨ value = 1 := by
  by_cases zero : value = 0
  · simp [fenceFlag, zero]
  · by_cases one : value = 1
    · simp [fenceFlag, one]
    · simp [fenceFlag, zero, one]

/-- The end of a buffer is checked in numbers. -/
theorem Buffer.isNone_stop?_eq_false_iff (b : Buffer) :
    (b.stop?.bind fit32?).isNone = false ↔
      b.baseOffset.toNat + b.deviceOffset.toNat + b.size.toNat < 2 ^ 32 := by
  rw [stop?, lastAddress]
  generalize b.baseOffset.toNat + b.deviceOffset.toNat + b.size.toNat = stop
  by_cases small : stop < 2 ^ 32
  · have address : stop ≤ UInt64.size - 1 := Nat.le_trans (Nat.le_of_lt small) (by decide)
    rw [if_pos address, Option.bind_some, fit32?_of_lt small]
    exact iff_of_true rfl small
  · refine iff_of_false ?_ small
    split
    · rw [Option.bind_some, fit32?_of_le (Nat.le_of_not_lt small)]
      decide
    · decide

namespace BufferSpec

variable {s : BufferSpec} {role : BufferRole} {cores mask : UInt32} {b : Buffer}

/-! ## Bytes of a buffer -/

/-- A buffer has bytes exactly if none of its dimensions is zero. -/
theorem exactSize_pos_iff : 0 < s.exactSize ↔ 0 ∉ s.dims := by
  rw [exactSize, Nat.mul_pos_iff_of_pos_left s.type.size_pos, prod_pos_iff]

/-- **The size that is checked is the exact one**, if there are elements and 32 bits hold it. A size
that overflows on the way is too large, whatever is multiplied to it later. -/
theorem checkedSize_eq_ok_iff (size : UInt32) :
    s.checkedSize = .ok size ↔
      (s.dims ≠ [] ∧ 0 ∉ s.dims) ∧ size.toNat = s.exactSize := by
  constructor
  · intro checked
    obtain ⟨bytes, known⟩ := Option.isSome_iff_exists.mp (isSome_byteSize?_of_checkedSize checked)
    have same : size.toNat = bytes := toNat_of_checkedSize checked known
    have exact : bytes = s.exactSize := eq_of_foldlM_checkedMul known
    rw [checkedSize, known, Option.getD_some] at checked
    split at checked
    · cases checked
    · next elements =>
      simp only [Bool.or_eq_true, List.isEmpty_iff, decide_eq_true_eq, not_or] at elements
      have bytes : 0 < s.exactSize := exact ▸ Nat.pos_of_ne_zero elements.2
      exact ⟨⟨elements.1, exactSize_pos_iff.mp bytes⟩, same.trans exact⟩
  · rintro ⟨⟨some, nonzero⟩, exact⟩
    have small : s.exactSize < UInt32.size := exact ▸ size.toNat_lt
    have known : s.byteSize? = .some s.exactSize :=
      foldlM_checkedMul nonzero (Nat.lt_trans small (by decide))
    have elements : ¬(s.dims.isEmpty || decide (s.exactSize = 0)) = true := by
      simp only [Bool.or_eq_true, List.isEmpty_iff, decide_eq_true_eq, not_or]
      exact ⟨some, Nat.ne_of_gt (exactSize_pos_iff.mpr nonzero)⟩
    rw [checkedSize, known, Option.getD_some, if_neg elements, fit32?_of_lt small, ← exact,
      UInt32.ofNat_toNat]

/-! ## Cores of a buffer -/

/-- Every core of the program holds a buffer that names none. -/
theorem heldBy_of_eq_nil (none : s.cores = []) (core : Nat) :
    s.HeldBy cores core ↔ core < cores.toNat := by
  rw [HeldBy, if_pos none]

/-- The cores that it names hold a buffer, if there are any. -/
theorem heldBy_of_ne_nil (some : s.cores ≠ []) (core : Nat) :
    s.HeldBy cores core ↔ ∃ named ∈ s.cores, named.toNat = core := by
  rw [HeldBy, if_neg some]

/-- **The mask has exactly the bits of the cores that hold the buffer**, and there is one exactly if the
cores that are named are the program's. -/
theorem coreMask_eq_ok_iff (few : cores.toNat ≤ 32) :
    s.coreMask cores = .ok mask ↔
      (∀ core ∈ s.cores, core < cores) ∧
        ∀ core, mask.toNat.testBit core = true ↔ s.HeldBy cores core := by
  -- a mask is settled by its bits, so it is enough to know those that are computed
  have bits {all : UInt32} (held : ∀ core, all.toNat.testBit core = true ↔ s.HeldBy cores core) :
      all = mask ↔ ∀ core, mask.toNat.testBit core = true ↔ s.HeldBy cores core := by
    constructor
    · rintro rfl
      exact held
    · intro held'
      refine UInt32.toNat_inj.mp (Nat.eq_of_testBit_eq fun core => ?_)
      rw [Bool.eq_iff_iff, held, held']
  rw [coreMask, bind_eq_ok]
  simp only [addCores_eq_ok_iff, and_assoc, exists_and_left, exists_eq_left]
  refine and_congr_right fun named => ?_
  have inside : ∀ core ∈ s.cores, core.toNat < 32 := fun core mem =>
    Nat.lt_of_lt_of_le (UInt32.lt_iff_toNat_lt.mp (named core mem)) few
  have added := testBit_foldl_coreBit inside
  show Except.ok _ = Except.ok mask ↔ _
  rw [Except.ok.injEq]
  refine bits fun core => ?_
  by_cases none : s.cores = []
  · rw [heldBy_of_eq_nil none, none, List.foldl_nil, if_pos rfl, testBit_allCoresMask few,
      decide_eq_true_eq]
  · -- a core that is named has its bit, so the mask is not empty
    obtain ⟨first, mem⟩ := List.exists_mem_of_ne_nil _ none
    have held := (added first.toNat).mpr ⟨first, mem, rfl⟩
    rw [heldBy_of_ne_nil none, if_neg, added]
    intro empty
    rw [empty, UInt32.toNat_zero, Nat.zero_testBit] at held
    cases held

/-! ## Place and fences of a buffer -/

/-- A place is checked in numbers, and the cores of an output by its mask. -/
theorem checkPlace_eq_ok_iff :
    s.checkPlace role mask = .ok () ↔
      (s.space.isOnChip = true → 4096 ∣ s.baseOffset.toNat) ∧
      (s.space.isOnChip = true → role = .output → isSingleCore mask = true) ∧
      (s.space.isOnChip = false → s.baseOffset = 0) := by
  rw [checkPlace]
  cases onChip : s.space.isOnChip with
  | true =>
    by_cases page : s.baseOffset.toNat % pageSize = 0
    · have aligned : 4096 ∣ s.baseOffset.toNat := Nat.dvd_of_mod_eq_zero page
      by_cases output : role = .output <;> by_cases single : isSingleCore mask = true <;>
        simp [page, aligned, output, single]
    · have unaligned : ¬4096 ∣ s.baseOffset.toNat := fun aligned =>
        page (Nat.mod_eq_zero_of_dvd aligned)
      simp [page, unaligned]
  | false => by_cases free : s.baseOffset = 0 <;> simp [free]

/-- A buffer has fences exactly if those of a transfer are flags. -/
theorem exists_fences_iff (s : BufferSpec) (role : BufferRole) :
    (∃ flags, s.fences role = .ok flags) ↔
      (role ≠ .internal →
        (s.inFence = 0 ∨ s.inFence = 1) ∧ (s.outFence = 0 ∨ s.outFence = 1)) := by
  rw [fences]
  by_cases internal : role = .internal
  · rw [if_pos internal]
    exact iff_of_true ⟨_, rfl⟩ fun moved => absurd internal moved
  · rw [if_neg internal, ← exists_fenceFlag_iff .before, ← exists_fenceFlag_iff .after]
    refine Iff.trans ?_ (forall_prop_of_true internal).symm
    constructor
    · rintro ⟨flags, given⟩
      obtain ⟨inFence, first, rest⟩ := bind_eq_ok.mp given
      obtain ⟨outFence, second, -⟩ := bind_eq_ok.mp rest
      exact ⟨⟨inFence, first⟩, ⟨outFence, second⟩⟩
    · rintro ⟨⟨inFence, first⟩, ⟨outFence, second⟩⟩
      exact ⟨(inFence, outFence), bind_eq_ok.mpr ⟨_, first, bind_eq_ok.mpr ⟨_, second, rfl⟩⟩⟩

/-! ## Buffers -/

/-- Only cores of the program hold a buffer, if it names no others. -/
theorem HeldBy.lt {core : Nat} (held : s.HeldBy cores core) (named : ∀ core ∈ s.cores, core < cores) :
    core < cores.toNat := by
  by_cases none : s.cores = []
  · exact (heldBy_of_eq_nil none core).mp held
  · obtain ⟨own, mem, rfl⟩ := (heldBy_of_ne_nil none core).mp held
    exact UInt32.lt_iff_toNat_lt.mp (named own mem)

/-- Some core holds a buffer, if the program has one. -/
theorem exists_heldBy (s : BufferSpec) (some : 1 ≤ cores.toNat) : ∃ core, s.HeldBy cores core := by
  by_cases none : s.cores = []
  · exact ⟨0, (heldBy_of_eq_nil none 0).mpr some⟩
  · obtain ⟨first, mem⟩ := List.exists_mem_of_ne_nil _ none
    exact ⟨first.toNat, (heldBy_of_ne_nil none _).mpr ⟨first, mem, rfl⟩⟩

/-- What is resolved could be had, and it is settled as it should be. -/
theorem Resolved.resolvable_and_settles {name : BufferName} (some : 1 ≤ cores.toNat)
    (few : cores.toNat ≤ 16) (resolved : s.Resolved name cores b) :
    s.Resolvable name.role cores ∧ s.Settles cores b := by
  obtain ⟨elements, size⟩ := (checkedSize_eq_ok_iff _).mp resolved.size
  obtain ⟨named, mask⟩ := (coreMask_eq_ok_iff (Nat.le_trans few (by decide))).mp resolved.cores
  obtain ⟨aligned, single, base⟩ := checkPlace_eq_ok_iff.mp resolved.place
  have fences := (s.exists_fences_iff name.role).mp ⟨_, resolved.fences⟩
  have stop := resolved.stop_lt
  have offsets : b.baseOffset = s.baseOffset ∧ b.deviceOffset = s.deviceOffset := by
    rw [resolved.shape]
    exact ⟨rfl, rfl⟩
  rw [offsets.1, offsets.2, size] at stop
  constructor
  · refine ⟨elements, size ▸ b.size.toNat_lt, named, aligned, fun onChip output => ?_, base, stop,
      fences, resolved.inputOnly⟩
    have one := (isSingleCore_iff b.cores).mp (single onChip output)
    simpa only [mask] using one
  · refine ⟨size, mask, fun empty => ?_, ?_⟩
    · obtain ⟨core, held⟩ := s.exists_heldBy some
      have set := (mask core).mpr held
      rw [empty, UInt32.toNat_zero, Nat.zero_testBit] at set
      cases set
    · refine Nat.lt_pow_two_of_testBit _ fun core beyond => ?_
      refine Bool.eq_false_of_not_eq_true fun set => ?_
      exact Nat.not_lt_of_le beyond (((mask core).mp set).lt named)

/-- What can be had is resolved. -/
theorem Resolvable.exists_resolved {name : BufferName} (few : cores.toNat ≤ 16)
    (h : s.Resolvable name.role cores) : ∃ b, s.Resolved name cores b := by
  have size : (UInt32.ofNat s.exactSize).toNat = s.exactSize := UInt32.toNat_ofNat_of_lt' h.size
  -- the mask that is computed has the bits of the cores that hold the buffer
  obtain ⟨mask, added⟩ : ∃ mask, addCores cores 0 s.cores = .ok mask :=
    ⟨_, addCores_eq_ok_iff.mpr ⟨h.named, rfl⟩⟩
  obtain ⟨mask, masked⟩ : ∃ mask, s.coreMask cores = .ok mask :=
    ⟨_, bind_eq_ok.mpr ⟨mask, added, rfl⟩⟩
  have bits := ((coreMask_eq_ok_iff (Nat.le_trans few (by decide))).mp masked).2
  obtain ⟨⟨inFence, outFence⟩, flags⟩ := (s.exists_fences_iff name.role).mpr h.fences
  refine ⟨s.settled name (.ofNat s.exactSize) mask inFence outFence, rfl,
    (checkedSize_eq_ok_iff _).mpr ⟨h.elements, size⟩, masked, ?_, ?_, flags, h.inputOnly⟩
  · refine checkPlace_eq_ok_iff.mpr ⟨h.aligned, fun onChip output => ?_, h.base⟩
    refine (isSingleCore_iff mask).mpr ?_
    simpa only [bits] using h.single onChip output
  · refine (Buffer.isNone_stop?_eq_false_iff _).mpr ?_
    show s.baseOffset.toNat + s.deviceOffset.toNat + (UInt32.ofNat s.exactSize).toNat < 2 ^ 32
    rw [size]
    exact h.stop

/-- **A buffer is resolved exactly if it can be had**, on up to 16 cores. It then has the exact size and
is on exactly the cores that hold it; and if it cannot be had, the configuration is told which buffer is
to blame. -/
theorem exists_resolve_iff (s : BufferSpec) (name : BufferName) {cores : UInt32}
    (some : 1 ≤ cores.toNat) (few : cores.toNat ≤ 16) :
    ((∃ b, s.resolve name cores = .ok b) ↔ s.Resolvable name.role cores) ∧
      (∀ b, s.resolve name cores = .ok b → s.Settles cores b) ∧
      ∀ fault, s.resolve name cores = .error fault → ∃ cause, fault = .buffer name cause := by
  simp only [resolve_eq_ok_iff]
  refine ⟨⟨?_, Resolvable.exists_resolved few⟩, ?_, fun fault failed => ?_⟩
  · rintro ⟨b, resolved⟩
    exact (resolved.resolvable_and_settles some few).1
  · intro b resolved
    exact (resolved.resolvable_and_settles some few).2
  · rw [resolve] at failed
    cases outcome : s.resolveAs name cores with
    | ok b =>
      rw [outcome] at failed
      cases failed
    | error cause =>
      rw [outcome] at failed
      exact ⟨cause, (Except.error.inj failed).symm⟩

/-- An output on the chip that names its core twice. -/
def repeated : BufferSpec where
  type := .float
  dims := [2, 8]
  baseOffset := 4096
  deviceOffset := 64
  space := .vtcm
  cores := [3, 3]

/-- It can be had on four cores: it is on one of them. -/
theorem exists_resolve_iff_repeated :
    ∃ b, repeated.resolve ⟨.output, 0⟩ 4 = .ok b ∧ repeated.Settles 4 b ∧
      b.size = 64 ∧ b.cores = 8 := by
  have one : 1 ≤ (4 : UInt32).toNat := by decide
  have few : (4 : UInt32).toNat ≤ 16 := by decide
  obtain ⟨exists_iff, settles, -⟩ := repeated.exists_resolve_iff ⟨.output, 0⟩ one few
  have only : ∀ core ∈ repeated.cores, core = 3 := fun core mem =>
    List.eq_of_mem_replicate (show core ∈ List.replicate 2 3 from mem)
  have held (core : Nat) : repeated.HeldBy 4 core ↔ core = 3 := by
    rw [heldBy_of_ne_nil (by decide)]
    constructor
    · rintro ⟨named, mem, rfl⟩
      rw [only named mem]
      rfl
    · rintro rfl
      exact ⟨3, List.mem_cons_self, rfl⟩
  obtain ⟨b, resolved⟩ := exists_iff.mpr
    { elements := by decide
      size := by decide
      named := fun core mem => only core mem ▸ by decide
      aligned := fun _ => by decide
      single := fun _ _ => ⟨3, (held 3).mpr rfl, fun core => (held core).mp⟩
      base := nofun
      stop := by decide
      fences := fun _ => by decide
      inputOnly := nofun }
  have known : (repeated.resolve ⟨.output, 0⟩ 4).map (fun b => (b.size, b.cores)) = .ok (64, 8) := by
    decide +kernel
  rw [resolved] at known
  obtain ⟨size, mask⟩ := Prod.mk.inj (Except.ok.inj known)
  exact ⟨b, resolved, settles b resolved, size, mask⟩

end BufferSpec

end ComputePlanner
