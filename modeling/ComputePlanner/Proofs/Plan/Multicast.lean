import ComputePlanner.Proofs.Plan.Layout
import ComputePlanner.Proofs.Plan.Structure
import Mathlib.Data.Nat.Bitwise

/-! # The multicast tables of a plan
The host and every core look a group up by its number, each in a table of its own. Every group is in
the tables of the cores, but the host's table leaves out those that are hidden from it. That a number
means the same group in both is up to the order of routing alone: what is hidden, the internal buffers
and the ring, is routed behind everything else. **`ProgramPlan.Routed`** says what is found under the
numbers that a plan hands out.

Main statement: **`ProgramConfig.routed_of_plan`**. -/

namespace ComputePlanner

/-! ## What the tables hold -/

/-- What a core finds under a number: a buffer's group, which covers nothing on a core that is not
among those of the buffer. -/
def Router.CoreFinds (r : Router) (core number : Nat) (b : Buffer) : Prop :=
  ∃ table memory, r.coreTables[core]? = some table ∧ b.space.coreMemory? = some memory ∧
    table[number]? = some
      { dynamic := false
        mask := b.cores
        size := if b.cores.toNat.testBit core then b.size else 0
        memory
        base := b.baseOffset }

/-- A transfer moves a buffer. -/
structure Transfer.Moves (t : Transfer) (b : Buffer) : Prop where
  size : t.size = b.size
  hostOffset : t.hostOffset = b.hostOffset
  deviceOffset : t.deviceOffset = b.deviceOffset
  space : t.space = b.space.deviceSpace

/-- How the plan of a configuration routes. -/
structure ProgramPlan.Routed (p : ProgramPlan) (c : ProgramConfig) : Prop where
  /-- Every core has a table. -/
  tables : p.router.coreTables.length = c.cores.toNat
  /-- A table has one entry for each buffer on the chip, behind that of the doorbells. -/
  entries : ∀ table ∈ p.router.coreTables,
    table.length = 1 + p.buffers.countP (·.space.isOnChip)
  /-- The buffers on the chip have a group each, the ring among them, and no others have one. -/
  grouped : p.groups.map (·.isSome) = p.buffers.map (·.space.isOnChip)
  /-- The numbers are counted from 1 in the order in which buffers are processed. -/
  numbers : (p.groups.filterMap id).map (·.toNat)
    = List.range' 1 (p.buffers.countP (·.space.isOnChip))
  /-- No two buffers have the same group. -/
  distinct : p.groups.Pairwise fun first second => ∀ m ∈ first, ∀ n ∈ second, m < n
  /-- Under the number of a buffer's group, every core finds the buffer. -/
  cores : ∀ (i : Nat) (b : Buffer) (number : UInt16), p.buffers[i]? = some b →
    p.groups[i]? = some (some number) →
    ∀ core < c.cores.toNat, p.router.CoreFinds core number.toNat b
  /-- A transfer through a group has the number of the buffer that it moves, under which the host and
  every core find that buffer. -/
  transfers : ∀ (i : Nat) (t : Transfer), p.transfers[i]? = some t → t.space = .multicast →
    ∃ b, p.buffers[i]? = some b ∧ t.Moves b ∧ p.groups[i]? = some (some t.group) ∧
      p.router.hostTable[t.group.toNat]? = some ⟨b.cores, b.size⟩ ∧
      ∀ core < c.cores.toNat, p.router.CoreFinds core t.group.toNat b
  /-- Under number 0, the host finds the doorbell windows of all cores. -/
  hostWindow : ∃ mask, p.router.hostTable[0]? = some ⟨mask, UInt32.ofNat doorbellWindow⟩ ∧
    ∀ i, mask.toNat.testBit i = decide (i < c.cores.toNat)
  /-- Under number 0, a core finds the doorbell windows of the others. -/
  coreWindow : ∀ core < c.cores.toNat, ∃ table mask, p.router.coreTables[core]? = some table ∧
    table[0]? = some ⟨false, mask, UInt32.ofNat doorbellWindow, .l2tcm, 0⟩ ∧
    ∀ i, mask.toNat.testBit i = decide (i < c.cores.toNat ∧ i ≠ core)
  /-- Every transfer rings one doorbell, which lies in the window and is written through group 0. -/
  doorbells : ∀ t ∈ p.transfers, ∃ op, t.doorbells = [op] ∧ op.group = 0 ∧ op.width = .bits32 ∧
    op.offset.toNat + slotSize ≤ doorbellWindow

/-! ## Masks -/

/-- Whether a core is in a mask is a bit of it. -/
theorem hasCore_eq_testBit (mask : UInt32) {core : Nat} (few : core < 32) :
    hasCore mask core = mask.toNat.testBit core := by
  have number : (UInt32.ofNat core).toNat = core :=
    UInt32.toNat_ofNat_of_lt' (Nat.lt_trans few (by decide))
  have bit : (coreBit (UInt32.ofNat core)).toNat = 2 ^ core := by
    rw [toNat_coreBit (number.symm ▸ few), number]
  have masked : (mask &&& coreBit (UInt32.ofNat core)).toNat
      = (mask.toNat.testBit core).toNat * 2 ^ core := by
    rw [UInt32.toNat_and, bit, Nat.and_two_pow]
  apply Bool.eq_iff_iff.mpr
  show decide (mask &&& coreBit (UInt32.ofNat core) ≠ 0) = true ↔ _
  rw [decide_eq_true_iff, ne_eq, ← UInt32.toNat_inj, masked, UInt32.toNat_zero]
  cases mask.toNat.testBit core with
  | false => simp
  | true => simp

/-- The mask of all cores has a bit for each of them. -/
theorem testBit_allCoresMask {cores : Nat} (few : cores ≤ 32) (i : Nat) :
    (allCoresMask cores).toNat.testBit i = decide (i < cores) := by
  have whole : (allCoresMask cores).toNat = 2 ^ cores - 1 := by
    have power : 2 ^ cores ≤ 2 ^ 32 := Nat.pow_le_pow_right (by decide) few
    have positive := Nat.two_pow_pos cores
    rw [allCoresMask, Nat.min_eq_left few, Nat.pow_eq, UInt32.toNat_ofNat']
    omega
  rw [whole, Nat.testBit_two_pow_sub_one]

/-- Without one of them, the mask of all cores has a bit for each of the others. -/
theorem testBit_allCoresMask_without {cores core : Nat} (few : cores ≤ 32) (own : core < cores)
    (i : Nat) :
    (allCoresMask cores &&& ~~~coreBit (UInt32.ofNat core)).toNat.testBit i
      = decide (i < cores ∧ i ≠ core) := by
  have inside : core < 32 := by omega
  have number : (UInt32.ofNat core).toNat = core :=
    UInt32.toNat_ofNat_of_lt' (Nat.lt_trans inside (by decide))
  have power : 2 ^ core < 2 ^ 32 := Nat.pow_lt_pow_right (by decide) inside
  have others : (~~~coreBit (UInt32.ofNat core)).toNat = 2 ^ 32 - (2 ^ core + 1) := by
    rw [UInt32.toNat_not, toNat_coreBit (number.symm ▸ inside), number, UInt32.size]
    omega
  rw [UInt32.toNat_and, Nat.testBit_and, testBit_allCoresMask few, others,
    Nat.testBit_two_pow_sub_succ power, Nat.testBit_two_pow]
  by_cases among : i < cores
  · have below : i < 32 := by omega
    simp [among, below, eq_comm]
  · simp [among]

/-! ## Groups by their numbers -/

/-- There are as many groups as buffers on the chip. -/
theorem length_groupsOf (bs : List Buffer) :
    (groupsOf bs).length = bs.countP (·.space.isOnChip) := by
  rw [groupsOf, List.length_filterMap_eq_countP]
  simp only [Buffer.isSome_group?]

/-- A buffer is said to have a group exactly if it is on the chip. -/
theorem map_isSome_groupNumbers (number : Nat) (bs : List Buffer) :
    (groupNumbers number bs).map (·.isSome) = bs.map (·.space.isOnChip) := by
  induction bs generalizing number with
  | nil => rfl
  | cons b bs ih =>
    rw [groupNumbers]
    by_cases onChip : b.space.isOnChip = true
    · simp [onChip, ih]
    · simp [onChip, ih]

/-- The numbers of groups are consecutive, as long as 16 bits hold them. -/
theorem filterMap_groupNumbers {number : Nat} {bs : List Buffer}
    (fits : number + (groupsOf bs).length ≤ 2 ^ 16) :
    ((groupNumbers number bs).filterMap id).map (·.toNat)
      = List.range' number (groupsOf bs).length := by
  induction bs generalizing number with
  | nil => rfl
  | cons b bs ih =>
    cases group : b.group? with
    | none =>
      rw [groupsOf_cons_of_none group] at fits ⊢
      rw [groupNumbers_cons_of_none group, List.filterMap_cons_none (f := id) rfl, ih fits]
    | some g =>
      rw [groupsOf_cons_of_some group, List.length_cons] at fits ⊢
      have first : (UInt16.ofNat number).toNat = number :=
        UInt16.toNat_ofNat_of_lt' (show number < 2 ^ 16 by omega)
      rw [groupNumbers_cons_of_some group, List.filterMap_cons_some (f := id) rfl, List.map_cons, first,
        ih (by omega), List.range'_succ]

/-- All groups of buffers that leave the device are visible to the host. -/
theorem hostVisible_of_mem_groupsOf {bs : List Buffer} (moved : ∀ b ∈ bs, b.role ≠ .internal)
    {g : Group} (mem : g ∈ groupsOf bs) : g.hostVisible = true := by
  obtain ⟨b, among, group⟩ := List.mem_filterMap.mp mem
  obtain ⟨memory, -, rfl⟩ := Option.map_eq_some_iff.mp group
  exact decide_eq_true (moved b among)

/-- No group of an internal buffer is. -/
theorem not_hostVisible_of_mem_groupsOf {bs : List Buffer}
    (internal : ∀ b ∈ bs, b.role = .internal) {g : Group} (mem : g ∈ groupsOf bs) :
    ¬g.hostVisible = true := by
  obtain ⟨b, among, group⟩ := List.mem_filterMap.mp mem
  obtain ⟨memory, -, rfl⟩ := Option.map_eq_some_iff.mp group
  exact fun visible => of_decide_eq_true visible (internal b among)

namespace Router

/-- There is a table for every core. -/
theorem length_coreTables (r : Router) : r.coreTables.length = r.cores := by
  rw [coreTables, List.length_map, List.length_range]

/-- The table of a core is in its place. -/
theorem getElem?_coreTables (r : Router) {core : Nat} (own : core < r.cores) :
    r.coreTables[core]? = some (r.coreTable core) := by
  rw [coreTables, List.getElem?_map, List.getElem?_range own, Option.map_some]

end Router

namespace Planned

variable {c : ProgramConfig} {p : ProgramPlan} {bufs : BufferSet}

/-- The cores that are routed are those of the program. -/
theorem router_cores (planned : Planned c p bufs) : p.router.cores = c.cores.toNat := by
  rw [planned.router]

/-- The window that is routed is the doorbell window. -/
theorem router_window (planned : Planned c p bufs) :
    p.router.window = UInt32.ofNat doorbellWindow := by
  rw [planned.router, planned.reservation]
  rfl

/-- The host sees the groups of the buffers that leave the device, since everything else is
internal. -/
theorem hostTable_eq (planned : Planned c p bufs) :
    p.router.hostTable = ⟨allCoresMask p.router.cores, p.router.window⟩
      :: (groupsOf bufs.moved).map (·.hostEntry) := by
  have visible : (groupsOf bufs.moved).filter (·.hostVisible) = groupsOf bufs.moved :=
    List.filter_eq_self.mpr fun g =>
      hostVisible_of_mem_groupsOf fun b mem => planned.sorted.moved mem
  have hidden : (groupsOf (bufs.internals ++ [p.ring c])).filter (·.hostVisible) = [] := by
    apply List.filter_eq_nil_iff.mpr
    intro g
    apply not_hostVisible_of_mem_groupsOf
    intro b mem
    rcases List.mem_append.mp mem with mem | mem
    · exact planned.sorted.internals b mem
    · rw [List.mem_singleton.mp mem]
      rfl
  have groups : p.router.groups.toList
      = groupsOf bufs.moved ++ groupsOf (bufs.internals ++ [p.ring c]) := by
    rw [planned.router, List.toList_toArray, planned.buffers, BufferSet.all, List.append_assoc,
      groupsOf_append]
  rw [Router.hostTable, groups, List.filter_append, visible, hidden, List.append_nil]

/-- Under the number of a buffer's group, every core finds the buffer. -/
theorem coreFinds (planned : Planned c p bufs) {i : Nat} {b : Buffer} {number : UInt16}
    (given : p.buffers[i]? = some b) (grouped : p.groups[i]? = some (some number)) {core : Nat}
    (own : core < c.cores.toNat) : p.router.CoreFinds core number.toNat b := by
  -- the buffer has a group, since it is said to have a number
  have onChip : b.group?.isSome = true := by
    rw [planned.groups, getElem?_groupNumbers, given, Option.map_some, Option.some.injEq] at grouped
    obtain ⟨g, group, -⟩ := Option.map_eq_some_iff.mp grouped
    rw [group, Option.isSome_some]
  obtain ⟨g, group⟩ := Option.isSome_iff_exists.mp onChip
  obtain ⟨number', grouped', value, found⟩ := planned.group_of_some given group
  obtain rfl : number = number' :=
    Option.some.inj (Option.some.inj (grouped.symm.trans grouped'))
  obtain ⟨memory, known, rfl⟩ := Option.map_eq_some_iff.mp group
  have few := planned.cores_bounds.2
  rw [maxCores] at few
  refine ⟨p.router.coreTable core, memory,
    p.router.getElem?_coreTables (planned.router_cores.symm ▸ own), known, ?_⟩
  rw [value, Nat.add_comm, Router.coreTable, List.getElem?_cons_succ, List.getElem?_map, found,
    Option.map_some, Group.entryFor, hasCore_eq_testBit _ (by omega)]

/-- What the host finds under the number of a transfer. -/
theorem hostFinds (planned : Planned c p bufs) {i : Nat} {b : Buffer} {g : Group}
    (given : bufs.moved[i]? = some b) (group : b.group? = some g) :
    ∃ number : UInt16, p.groups[i]? = some (some number) ∧
      p.router.hostTable[number.toNat]? = some ⟨b.cores, b.size⟩ := by
  have inside : i < bufs.moved.length := (List.getElem?_eq_some_iff.mp given).1
  have among : bufs.all[i]? = some b := by
    rw [BufferSet.all, List.getElem?_append_left inside, given]
  obtain ⟨number, grouped, value, -⟩ :=
    planned.group_of_some (planned.getElem?_buffers among) group
  -- the buffers in front of one that leaves the device leave it too
  have front : p.buffers.take i = bufs.moved.take i := by
    rw [planned.buffers, BufferSet.all, List.append_assoc,
      List.take_append_of_le_length (Nat.le_of_lt inside)]
  obtain ⟨memory, -, rfl⟩ := Option.map_eq_some_iff.mp group
  refine ⟨number, grouped, ?_⟩
  rw [value, front, planned.hostTable_eq, Nat.add_comm, List.getElem?_cons_succ,
    List.getElem?_map, getElem?_groupsOf given group, Option.map_some]
  rfl

/-- A transfer through a group has the number under which its buffer is found. -/
theorem exists_moved (planned : Planned c p bufs) {i : Nat} {t : Transfer}
    (queued : p.transfers[i]? = some t) (through : t.space = .multicast) :
    ∃ b, p.buffers[i]? = some b ∧ t.Moves b ∧ p.groups[i]? = some (some t.group) ∧
      p.router.hostTable[t.group.toNat]? = some ⟨b.cores, b.size⟩ ∧
      ∀ core < c.cores.toNat, p.router.CoreFinds core t.group.toNat b := by
  rw [← Array.getElem?_toList] at queued
  have inside : i < bufs.moved.length :=
    planned.length_transfers ▸ (List.getElem?_eq_some_iff.mp queued).1
  have given := List.getElem?_eq_getElem inside
  have among : bufs.all[i]? = some bufs.moved[i] := by
    rw [BufferSet.all, List.getElem?_append_left inside, given]
  have placed := planned.getElem?_buffers among
  obtain ⟨group, grouped⟩ := planned.exists_group placed
  rw [planned.getElem?_transfers given grouped, Option.some.injEq] at queued
  subst queued
  have onChip : bufs.moved[i].space.isOnChip = true := by
    change bufs.moved[i].space.deviceSpace = _ at through
    rw [AddressSpace.deviceSpace] at through
    by_contra off
    rw [if_neg off] at through
    cases through
  obtain ⟨g, known⟩ := Option.isSome_iff_exists.mp (bufs.moved[i].isSome_group?.trans onChip)
  obtain ⟨number, grouped', found⟩ := planned.hostFinds given known
  obtain rfl : group = some number := Option.some.inj (grouped.symm.trans grouped')
  exact ⟨bufs.moved[i], placed, ⟨rfl, rfl, rfl, rfl⟩, grouped, found,
    fun core own => planned.coreFinds placed grouped own⟩

/-- Every transfer rings a doorbell in the window. -/
theorem exists_doorbell (planned : Planned c p bufs) {t : Transfer} (mem : t ∈ p.transfers) :
    ∃ op, t.doorbells = [op] ∧ op.group = 0 ∧ op.width = .bits32 ∧
      op.offset.toNat + slotSize ≤ doorbellWindow := by
  obtain ⟨i, b, group, given, rfl⟩ := planned.exists_of_mem_transfers (Array.mem_toList_iff.mpr mem)
  refine ⟨_, rfl, rfl, rfl, ?_⟩
  -- the slots are those of the buffers, in front of the exit slot
  have inside : i < bufs.moved.length := (List.getElem?_eq_some_iff.mp given).1
  have doorbells := planned.doorbells
  rw [BufferSet.all, List.length_append, firmwareSlots] at doorbells
  have below : slotOffset i < 2 ^ 64 := by
    rw [slotOffset, slotSize]
    omega
  rw [UInt64.toNat_ofNat_of_lt' below, slotOffset, doorbellWindow, slotSize, firmwareSlots]
  omega

end Planned

/-- **A group has one number everywhere.** In every plan, the number of a transfer through a group
leads the host and every core to the buffer that is moved; the numbers count the buffers on the chip
in the order in which they are processed; and under number 0 all find the doorbell windows that
transfers write to. -/
theorem ProgramConfig.routed_of_plan {c : ProgramConfig} {p : ProgramPlan} (h : c.plan = .ok p) :
    p.Routed c := by
  obtain ⟨bufs, planned⟩ := c.planned_of_plan h
  have few : c.cores.toNat ≤ 32 := Nat.le_trans planned.cores_bounds.2 (by decide)
  have numbered : (p.groups.filterMap id).map (·.toNat)
      = List.range' 1 (p.buffers.countP (·.space.isOnChip)) := by
    have enough := planned.numbers
    rw [groupLimit] at enough
    rw [planned.groups, filterMap_groupNumbers (by omega), length_groupsOf]
  refine
    { tables := by rw [Router.length_coreTables, planned.router_cores]
      entries := ?_
      grouped := by rw [planned.groups, map_isSome_groupNumbers]
      numbers := numbered
      distinct := ?_
      cores := fun i b number given grouped core own => planned.coreFinds given grouped own
      transfers := fun i t queued through => planned.exists_moved queued through
      hostWindow := ?_
      coreWindow := ?_
      doorbells := fun t mem => planned.exists_doorbell mem }
  · intro table mem
    obtain ⟨core, -, rfl⟩ := List.mem_map.mp mem
    rw [Router.coreTable, List.length_cons, List.length_map, planned.router, List.toList_toArray,
      length_groupsOf, Nat.add_comm]
  · -- consecutive numbers increase
    have increasing : ((p.groups.filterMap id).map (·.toNat)).Pairwise (· < ·) := by
      rw [numbered]
      exact List.pairwise_lt_range'
    rw [List.pairwise_map, List.pairwise_filterMap] at increasing
    exact increasing
  · refine ⟨allCoresMask c.cores.toNat, ?_, testBit_allCoresMask few⟩
    rw [Router.hostTable, planned.router_cores, planned.router_window, List.getElem?_cons_zero]
  · intro core own
    refine ⟨p.router.coreTable core, _,
      p.router.getElem?_coreTables (planned.router_cores.symm ▸ own), ?_,
      testBit_allCoresMask_without few own⟩
    rw [Router.coreTable, List.getElem?_cons_zero, Router.doorbellEntry, planned.router_cores,
      planned.router_window]
    rfl

/-- The small configuration has a plan, in which the input off the chip has no group, and the input
on it, the internal buffer and the ring have the next ones. -/
theorem ProgramConfig.routed_of_plan_small :
    ∃ p, small.plan = .ok p ∧ p.Routed small ∧
      p.groups = [none, some 1, none, some 2, some 3] := by
  have planned : small.plan.map (·.groups) = .ok [none, some 1, none, some 2, some 3] := by
    decide +kernel
  cases given : small.plan with
  | ok p =>
    rw [given] at planned
    exact ⟨p, rfl, routed_of_plan given, Except.ok.inj planned⟩
  | error fault =>
    rw [given] at planned
    cases planned

end ComputePlanner
