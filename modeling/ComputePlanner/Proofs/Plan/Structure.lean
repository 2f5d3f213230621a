import ComputePlanner.Proofs.Plan.Resolve
import ComputePlanner.Proofs.Plan.Routing
import ComputePlanner.Proofs.Plan.Setup

/-! # The structure of a plan
Planning runs through the buffers several times, each time with a counter or a table of its own.
**`Planned`** says what comes out: the buffers in order, the group of each, its slot, its transfer
and its entry for the loader, all by the place of the buffer in one list. Main statement:
**`ProgramConfig.planned_of_plan`**, every plan has this structure.

What is said about plans elsewhere is derived from `Planned`, not from the steps of planning. -/

namespace ComputePlanner

/-- The buffers of a program by role, in the order of the configuration. -/
structure BufferSet where
  inputs : List Buffer
  outputs : List Buffer
  internals : List Buffer

namespace BufferSet

/-- The buffers that leave the device, in the order they are processed. -/
def moved (bufs : BufferSet) : List Buffer := bufs.inputs ++ bufs.outputs

/-- All buffers, in the order they are processed. -/
def all (bufs : BufferSet) : List Buffer := bufs.moved ++ bufs.internals

end BufferSet

/-- The descriptor ring of a plan for a configuration. -/
def ProgramPlan.ring (p : ProgramPlan) (c : ProgramConfig) : Buffer :=
  ringBuffer p.reservation c.cores.toNat c.internals.length

/-- A plan for a configuration with given buffers. -/
structure Planned (c : ProgramConfig) (p : ProgramPlan) (bufs : BufferSet) : Prop where
  target : c.checkTarget = .ok ()
  threads : c.threadPlan = .ok p.threads
  reservation : p.reservation = .ofThreads p.threads.total
  inputs : resolveFrom .input c.cores 0 c.inputs = .ok bufs.inputs
  outputs : resolveFrom .output c.cores 0 c.outputs = .ok bufs.outputs
  internals : resolveFrom .internal c.cores 0 c.internals = .ok bufs.internals
  placed : ∃ layout, (Layout.ofReservation p.reservation).placeAll bufs.all = .ok layout ∧
    layout.used = p.resources
  /-- Every buffer has a doorbell, and the exit slot is left. -/
  doorbells : bufs.all.length + 1 ≤ firmwareSlots
  buffers : p.buffers = bufs.all ++ [p.ring c]
  /-- Group 0 is for doorbells; the others are those of the buffers. -/
  groups : p.groups = groupNumbers 1 p.buffers
  router : p.router =
    ⟨c.cores.toNat, UInt32.ofNat p.reservation.doorbellWindow, (groupsOf p.buffers).toArray⟩
  /-- There is a number for every group. -/
  numbers : 1 + (groupsOf p.buffers).length ≤ groupLimit
  handshake : p.handshake =
    { inputCores := Handshake.coresOf .input bufs.all
      outputCores := Handshake.coresOf .output bufs.all
      inputs := bufs.inputs.length
      outputs := bufs.outputs.length
      slots := bufs.all.map Handshake.firstValue }
  /-- A buffer's place is the number of its transfer and of its slot. -/
  transfers : p.transfers.toList =
    (bufs.moved.zip p.groups).mapIdx fun i x => p.handshake.transferOf i i x.1 x.2
  descriptor : p.descriptor =
    { exitSlot := UInt16.ofNat exitSlot
      inputSemaphore
      outputSemaphore
      threads := UInt32.ofNat p.threads.total
      buffers := (bufs.all.zip p.groups).mapIdx (fun i x => x.1.entry x.2 (some i))
        ++ [(p.ring c).entry (some (UInt16.ofNat (1 + (groupsOf bufs.all).length))) none]
      ringIndex := clamp32 bufs.all.length
      dummyOffset := UInt32.ofNat p.reservation.dummyOffset }
  /-- The loader can be told of every buffer. -/
  fits : ∀ b ∈ p.buffers, b.start < 2 ^ 32 ∧ b.cores.toNat < 2 ^ 16

/-! ## What the stages answer -/

/-- The target is the one card there is, with some of its cores. -/
theorem ProgramConfig.checkTarget_eq_ok_iff (c : ProgramConfig) :
    c.checkTarget = .ok () ↔
      (c.hardwareMajor = 2 ∧ c.hardwareMinor = 0) ∧ 1 ≤ c.cores.toNat ∧ c.cores.toNat ≤ 16 := by
  have version : (c.hardwareMajor, c.hardwareMinor) = supportedHardware ↔
      c.hardwareMajor = 2 ∧ c.hardwareMinor = 0 := iff_of_eq (Prod.mk.injEq ..)
  rw [checkTarget, ite_error_eq_ok_iff, ite_eq_ok_iff, Decidable.not_not, version, and_iff_left rfl]
  rfl

/-- Threads are planned if a core has as many and the matrix threads are among them. -/
theorem ProgramConfig.threadPlan_eq_ok_iff (c : ProgramConfig) (t : ThreadPlan) :
    c.threadPlan = .ok t ↔
      (c.totalThreads ≤ 6 ∧ c.matrixThreads.toNat ≤ c.totalThreads) ∧
      t = ⟨c.totalThreads, c.matrixThreads.toNat⟩ := by
  rw [threadPlan, ite_error_eq_ok_iff, ite_error_eq_ok_iff, ok_eq_ok_iff, Nat.not_lt, Nat.not_lt,
    and_assoc]
  rfl

/-- A router starts with the doorbell group only. -/
theorem Router.start_eq_ok {cores window : Nat} {r : Router}
    (h : Router.start cores window = .ok r) : r = ⟨cores, UInt32.ofNat window, #[]⟩ := by
  rw [Router.start] at h
  by_cases fits : window < 2 ^ 32
  · rw [fit32?_of_lt fits] at h
    exact (Except.ok.inj h).symm
  · rw [fit32?_of_le (Nat.le_of_not_lt fits)] at h
    cases h

/-- Buffers are routed with an internal one behind them as they are routed together. -/
theorem Router.add_routeAll_eq_ok {cores window : Nat} {start routed router : Router}
    {bs : List Buffer} {last : Buffer} {groups : List (Option UInt16)} {number : UInt16}
    (started : Router.start cores window = .ok start)
    (routing : routeAll start bs = .ok (groups, routed)) (internal : last.role = .internal)
    (added : routed.add last.space last.cores last.size last.baseOffset false
      = .ok (number, router)) :
    number = UInt16.ofNat (1 + (groupsOf bs).length) ∧
    groups = groupNumbers 1 bs ∧
    groups ++ [some number] = groupNumbers 1 (bs ++ [last]) ∧
    router = ⟨cores, UInt32.ofNat window, (groupsOf (bs ++ [last])).toArray⟩ ∧
    1 + (groupsOf (bs ++ [last])).length ≤ groupLimit := by
  obtain ⟨-, numbers, routes⟩ := (routeAll_eq_ok_iff ..).mp routing
  have first : start.count = 1 := by rw [Router.start_eq_ok started]; rfl
  rw [first] at numbers
  rw [Router.start_eq_ok started, Array.empty_append] at routes
  have count : routed.count = 1 + (groupsOf bs).length := by
    rw [routes, Router.count, List.size_toArray, Nat.add_comm]
  -- an internal buffer is hidden from the host
  have hidden : decide (last.role ≠ .internal) = false := by rw [internal]; rfl
  rw [← hidden] at added
  obtain ⟨g, group, free, rfl, rfl⟩ := (Router.add_eq_ok_iff ..).mp added
  have grouped : groupsOf (bs ++ [last]) = groupsOf bs ++ [g] := by
    rw [groupsOf_append, groupsOf_cons_of_some group, groupsOf_nil]
  rw [count] at free ⊢
  refine ⟨rfl, numbers, ?_, ?_, ?_⟩
  · rw [numbers, groupNumbers_append, groupNumbers_cons_of_some group]
    rfl
  · rw [routes, Router.push, grouped, List.push_toArray]
  · rw [grouped, List.length_append, List.length_singleton]
    omega

/-- Among buffers of one role, those of a role are all or none. -/
theorem countP_role_eq {bs : List Buffer} {role : BufferRole} (h : ∀ b ∈ bs, b.role = role)
    (role' : BufferRole) : bs.countP (·.role = role') = if role = role' then bs.length else 0 := by
  by_cases same : role = role'
  · rw [if_pos same, List.countP_eq_length]
    exact fun b mem => decide_eq_true ((h b mem).trans same)
  · rw [if_neg same, List.countP_eq_zero]
    intro b mem
    rw [h b mem, decide_eq_true_iff]
    exact same

/-- The buffers of the roles. -/
structure BufferSet.Sorted (bufs : BufferSet) : Prop where
  inputs : ∀ b ∈ bufs.inputs, b.role = .input
  outputs : ∀ b ∈ bufs.outputs, b.role = .output
  internals : ∀ b ∈ bufs.internals, b.role = .internal

/-- The buffers that leave the device are not internal. -/
theorem BufferSet.Sorted.moved {bufs : BufferSet} (h : bufs.Sorted) {b : Buffer}
    (mem : b ∈ bufs.moved) : b.role ≠ .internal := by
  rcases List.mem_append.mp mem with mem | mem
  · rw [h.inputs b mem]
    exact nofun
  · rw [h.outputs b mem]
    exact nofun

/-- A handshake starts with the cores and the counts of the roles and without slots. -/
theorem Handshake.ofBuffers_eq_ok (bufs : BufferSet) (sorted : bufs.Sorted) {h : Handshake}
    (shaken : Handshake.ofBuffers bufs.all = .ok h) :
    bufs.all.length + 1 ≤ firmwareSlots ∧ h =
      { inputCores := coresOf .input bufs.all
        outputCores := coresOf .output bufs.all
        inputs := bufs.inputs.length
        outputs := bufs.outputs.length
        slots := [] } := by
  have counts (role : BufferRole) : bufs.all.countP (·.role = role)
      = (if .input = role then bufs.inputs.length else 0)
        + (if .output = role then bufs.outputs.length else 0)
        + (if .internal = role then bufs.internals.length else 0) := by
    rw [BufferSet.all, BufferSet.moved, List.countP_append, List.countP_append,
      countP_role_eq sorted.inputs, countP_role_eq sorted.outputs, countP_role_eq sorted.internals]
  rw [ofBuffers] at shaken
  by_cases many : firmwareSlots < bufs.all.length + 1
  · rw [if_pos many] at shaken
    cases shaken
  · rw [if_neg many, counts, counts] at shaken
    cases shaken
    simp only [↓reduceIte, reduceCtorEq, Nat.add_zero, Nat.zero_add, and_true]
    exact Nat.le_of_not_lt many

/-- What setting up the buffers of a program leaves behind. -/
theorem Setup.addAll_all (bufs : BufferSet) (sorted : bufs.Sorted) (h : Handshake)
    (fresh : h.slots = []) (d : ProgramDescriptor) (none : d.buffers = []) {s : Setup}
    (added : Setup.addAll ⟨h, #[], d⟩ (bufs.all.zip (groupNumbers 1 bufs.all)) = .ok s) :
    s.handshake = { h with slots := bufs.all.map Handshake.firstValue } ∧
    s.transfers.toList = ((bufs.moved.zip (groupNumbers 1 bufs.moved)).mapIdx fun i x =>
      h.transferOf i i x.1 x.2) ∧
    s.descriptor = { d with
      buffers := (bufs.all.zip (groupNumbers 1 bufs.all)).mapIdx fun i x =>
        x.1.entry x.2 (some i) } ∧
    ∀ b ∈ bufs.all, b.start < 2 ^ 32 ∧ b.cores.toNat < 2 ^ 16 := by
  obtain ⟨rfl, fits⟩ := addAll_eq_ok added
  have firsts : (bufs.all.zip (groupNumbers 1 bufs.all)).map Prod.fst = bufs.all :=
    List.map_fst_zip (Nat.le_of_eq (length_groupNumbers 1 bufs.all).symm)
  have slots : (bufs.all.zip (groupNumbers 1 bufs.all)).map (fun x => Handshake.firstValue x.1)
      = bufs.all.map Handshake.firstValue := by
    have values := congrArg (List.map Handshake.firstValue) firsts
    rwa [List.map_map] at values
  refine ⟨?_, ?_, ?_, fun b mem => ?_⟩
  · rw [handshake_putAll, slots]
    dsimp only
    rw [fresh, List.nil_append]
  · -- the internal buffers are behind the others and add no transfer
    have parts : bufs.all.zip (groupNumbers 1 bufs.all)
        = bufs.moved.zip (groupNumbers 1 bufs.moved)
          ++ bufs.internals.zip
            (groupNumbers (1 + (groupsOf bufs.moved).length) bufs.internals) := by
      rw [BufferSet.all, groupNumbers_append, List.zip_append (length_groupNumbers ..).symm]
    have aligned : h.slots.length = (#[] : Array Transfer).size := by rw [fresh]; rfl
    rw [parts, putAll_append, transfers_putAll_of_internal, transfers_putAll_of_ne _ _ aligned]
    · simp only [List.nil_append, Array.size_empty, Nat.zero_add]
    · exact fun x mem => sorted.moved (List.of_mem_zip mem).1
    · exact fun x mem => sorted.internals _ (List.of_mem_zip mem).1
  · rw [descriptor_putAll]
    dsimp only
    rw [none, fresh, List.nil_append]
    simp only [List.length_nil, Nat.zero_add]
  · rw [← firsts] at mem
    obtain ⟨x, paired, rfl⟩ := List.mem_map.mp mem
    exact fits x paired

/-- The buffers of a program are those of the roles, one role after the other. -/
theorem ProgramConfig.resolveAll_eq_ok {c : ProgramConfig} {bs : List Buffer}
    (h : c.resolveAll = .ok bs) :
    ∃ bufs : BufferSet, resolveFrom .input c.cores 0 c.inputs = .ok bufs.inputs ∧
      resolveFrom .output c.cores 0 c.outputs = .ok bufs.outputs ∧
      resolveFrom .internal c.cores 0 c.internals = .ok bufs.internals ∧ bs = bufs.all := by
  obtain ⟨inputs, hinputs, h⟩ := bind_eq_ok.mp h
  obtain ⟨outputs, houtputs, h⟩ := bind_eq_ok.mp h
  obtain ⟨internals, hinternals, h⟩ := bind_eq_ok.mp h
  cases h
  exact ⟨⟨inputs, outputs, internals⟩, hinputs, houtputs, hinternals, rfl⟩

/-- **Every plan has this structure.** -/
theorem ProgramConfig.planned_of_plan {c : ProgramConfig} {p : ProgramPlan} (h : c.plan = .ok p) :
    ∃ bufs, Planned c p bufs := by
  obtain ⟨⟨⟩, target, h⟩ := bind_eq_ok.mp h
  obtain ⟨threads, threadPlan, h⟩ := bind_eq_ok.mp h
  obtain ⟨buffers, resolved, h⟩ := bind_eq_ok.mp h
  obtain ⟨layout, placed, h⟩ := bind_eq_ok.mp h
  obtain ⟨start, started, h⟩ := bind_eq_ok.mp h
  obtain ⟨⟨groups, routed⟩, routing, h⟩ := bind_eq_ok.mp h
  obtain ⟨handshake, shaken, h⟩ := bind_eq_ok.mp h
  obtain ⟨setup, added, h⟩ := bind_eq_ok.mp h
  obtain ⟨⟨ringGroup, router⟩, ringAdded, h⟩ := bind_eq_ok.mp h
  obtain ⟨ringEntry, ringTold, h⟩ := bind_eq_ok.mp h
  obtain ⟨dummyOffset, dummyTold, h⟩ := bind_eq_ok.mp h
  cases h
  obtain ⟨bufs, hinputs, houtputs, hinternals, rfl⟩ := c.resolveAll_eq_ok resolved
  have sorted : bufs.Sorted := ⟨fun _ => role_of_resolveFrom hinputs,
    fun _ => role_of_resolveFrom houtputs, fun _ => role_of_resolveFrom hinternals⟩
  -- the groups of the buffers and of the ring behind them
  generalize ringEq : ringBuffer (.ofThreads threads.total) c.cores.toNat c.internals.length = ring
    at ringAdded ringTold
  have internal : ring.role = .internal := by rw [← ringEq]; rfl
  obtain ⟨rfl, numbers, grouped, routed, free⟩ :=
    Router.add_routeAll_eq_ok started routing internal ringAdded
  -- the buffers, each with its slot
  rw [numbers] at added
  obtain ⟨doorbells, rfl⟩ := Handshake.ofBuffers_eq_ok bufs sorted shaken
  obtain ⟨handshake, transfers, descriptor, fits⟩ :=
    Setup.addAll_all bufs sorted _ rfl _ rfl added
  -- the ring, behind all of them
  obtain ⟨ringStart, -, ringCores, rfl⟩ := (bufferEntry_eq_ok_iff ..).mp ringTold
  obtain ⟨-, rfl⟩ := (narrow32_eq_ok_iff ..).mp dummyTold
  refine ⟨bufs,
    { target
      threads := threadPlan
      reservation := rfl
      inputs := hinputs
      outputs := houtputs
      internals := hinternals
      placed := ⟨layout, placed, rfl⟩
      doorbells
      buffers := by rw [← ringEq]; rfl
      groups := grouped
      router := routed
      numbers := free
      handshake
      transfers := ?_
      descriptor := ?_
      fits := ?_ }⟩
  · dsimp only
    rw [transfers, handshake, grouped, BufferSet.all, List.append_assoc, zip_groupNumbers_append]
    rfl
  · dsimp only
    rw [descriptor, grouped, zip_groupNumbers_append, ProgramPlan.ring, ringEq,
      ProgramDescriptor.addRing, ProgramDescriptor.add]
    dsimp only
    rw [List.length_mapIdx, List.length_zip, length_groupNumbers, Nat.min_self]
  · intro b mem
    rcases List.mem_append.mp mem with mem | mem
    · exact fits b mem
    · rw [List.mem_singleton.mp mem]
      exact ⟨ringStart, ringCores⟩

/-! ## What is found at a place -/

namespace Planned

variable {c : ProgramConfig} {p : ProgramPlan} {bufs : BufferSet}

/-- The buffers have the roles they were resolved for. -/
theorem sorted (planned : Planned c p bufs) : bufs.Sorted where
  inputs _ := role_of_resolveFrom planned.inputs
  outputs _ := role_of_resolveFrom planned.outputs
  internals _ := role_of_resolveFrom planned.internals

/-- The program has between one core and as many as the card. -/
theorem cores_bounds (planned : Planned c p bufs) :
    1 ≤ c.cores.toNat ∧ c.cores.toNat ≤ maxCores :=
  (c.checkTarget_eq_ok_iff.mp planned.target).2

/-- Every buffer has a group or is said to have none. -/
theorem length_groups (planned : Planned c p bufs) : p.groups.length = p.buffers.length := by
  rw [planned.groups, length_groupNumbers]

/-- What is known of a buffer's group. -/
theorem exists_group (planned : Planned c p bufs) {i : Nat} {b : Buffer}
    (given : p.buffers[i]? = some b) : ∃ group, p.groups[i]? = some group := by
  have inside : i < p.groups.length := by
    rw [planned.length_groups]
    exact (List.getElem?_eq_some_iff.mp given).1
  exact ⟨p.groups[i], List.getElem?_eq_getElem inside⟩

/-- A buffer of the configuration is a buffer of the plan, in its place. -/
theorem getElem?_buffers (planned : Planned c p bufs) {i : Nat} {b : Buffer}
    (given : bufs.all[i]? = some b) : p.buffers[i]? = some b := by
  have inside : i < bufs.all.length := (List.getElem?_eq_some_iff.mp given).1
  rw [planned.buffers, List.getElem?_append_left inside, given]

/-- A buffer on the chip has the group that its number leads to. -/
theorem group_of_some (planned : Planned c p bufs) {i : Nat} {b : Buffer}
    (given : p.buffers[i]? = some b) {g : Group} (group : b.group? = some g) :
    ∃ number : UInt16, p.groups[i]? = some (some number) ∧
      number.toNat = 1 + (groupsOf (p.buffers.take i)).length ∧
      p.router.groups.toList[(groupsOf (p.buffers.take i)).length]? = some g := by
  have found := getElem?_groupsOf given group
  have below : (groupsOf (p.buffers.take i)).length < (groupsOf p.buffers).length :=
    (List.getElem?_eq_some_iff.mp found).1
  have fits : 1 + (groupsOf (p.buffers.take i)).length < 2 ^ 16 := by
    have := planned.numbers
    rw [groupLimit] at this
    omega
  refine ⟨UInt16.ofNat (1 + (groupsOf (p.buffers.take i)).length), ?_,
    UInt16.toNat_ofNat_of_lt' fits, ?_⟩
  · rw [planned.groups, getElem?_groupNumbers, given, Option.map_some, group, Option.map_some]
  · rw [planned.router, List.toList_toArray, found]

/-- There is a transfer for every buffer that leaves the device. -/
theorem length_transfers (planned : Planned c p bufs) :
    p.transfers.toList.length = bufs.moved.length := by
  have enough : bufs.moved.length ≤ p.groups.length := by
    rw [planned.length_groups, planned.buffers, BufferSet.all, List.length_append,
      List.length_append]
    omega
  rw [planned.transfers, List.length_mapIdx, List.length_zip, Nat.min_eq_left enough]

/-- The transfer of a buffer is in the buffer's place. -/
theorem getElem?_transfers (planned : Planned c p bufs) {i : Nat} {b : Buffer}
    (given : bufs.moved[i]? = some b) {group : Option UInt16}
    (grouped : p.groups[i]? = some group) :
    p.transfers.toList[i]? = some (p.handshake.transferOf i i b group) := by
  have pair : (bufs.moved.zip p.groups)[i]? = some (b, group) :=
    List.getElem?_zip_eq_some.mpr ⟨given, grouped⟩
  rw [planned.transfers, List.getElem?_mapIdx, pair, Option.map_some]

/-- Every transfer is that of a buffer. -/
theorem exists_of_mem_transfers (planned : Planned c p bufs) {t : Transfer}
    (mem : t ∈ p.transfers.toList) :
    ∃ i b group, bufs.moved[i]? = some b ∧ t = p.handshake.transferOf i i b group := by
  rw [planned.transfers] at mem
  obtain ⟨i, inside, rfl⟩ := List.mem_mapIdx.mp mem
  have pair := List.getElem?_zip_eq_some.mp (List.getElem?_eq_getElem inside)
  exact ⟨i, _, _, pair.1, rfl⟩

/-- The loader is told of every buffer and of the ring. -/
theorem length_entries (planned : Planned c p bufs) :
    p.descriptor.buffers.length = bufs.all.length + 1 := by
  have enough : bufs.all.length ≤ p.groups.length := by
    rw [planned.length_groups, planned.buffers, List.length_append]
    omega
  rw [planned.descriptor, List.length_append, List.length_mapIdx, List.length_zip,
    Nat.min_eq_left enough, List.length_singleton]

/-- The entry of a buffer is in the buffer's place. -/
theorem getElem?_entries (planned : Planned c p bufs) {i : Nat} {b : Buffer}
    (given : bufs.all[i]? = some b) {group : Option UInt16} (grouped : p.groups[i]? = some group) :
    p.descriptor.buffers[i]? = some (b.entry group (some i)) := by
  have pair : (bufs.all.zip p.groups)[i]? = some (b, group) :=
    List.getElem?_zip_eq_some.mpr ⟨given, grouped⟩
  have found : ((bufs.all.zip p.groups).mapIdx fun i x => x.1.entry x.2 (some i))[i]?
      = some (b.entry group (some i)) := by
    rw [List.getElem?_mapIdx, pair, Option.map_some]
  rw [planned.descriptor, List.getElem?_append_left (List.getElem?_eq_some_iff.mp found).1, found]

/-- The entry of the ring is behind all others. -/
theorem getElem?_entries_ring (planned : Planned c p bufs) :
    p.descriptor.buffers[bufs.all.length]? =
      some ((p.ring c).entry (some (UInt16.ofNat (1 + (groupsOf bufs.all).length))) none) := by
  have enough : bufs.all.length ≤ p.groups.length := by
    rw [planned.length_groups, planned.buffers, List.length_append]
    omega
  have length : ((bufs.all.zip p.groups).mapIdx fun i x => x.1.entry x.2 (some i)).length
      = bufs.all.length := by
    rw [List.length_mapIdx, List.length_zip, Nat.min_eq_left enough]
  rw [planned.descriptor, List.getElem?_append_right (Nat.le_of_eq length), length, Nat.sub_self,
    List.getElem?_cons_zero]

end Planned

/-! ## A small configuration -/

/-- Two cores with an input off the chip and one on it, an output that one of them holds, and a
buffer of their own. -/
def ProgramConfig.small : ProgramConfig where
  name := "small"
  hardwareMajor := 2
  hardwareMinor := 0
  cores := 2
  matrixThreads := 1
  inputs := [
    { type := .float16, dims := [8], space := .ddr, allowPartial := true },
    { type := .int8, dims := [2, 3], baseOffset := 4096, deviceOffset := 64, space := .vtcm }]
  outputs := [{ type := .int8, dims := [16], deviceOffset := 1024, space := .ddr, cores := [1] }]
  internals := [{ type := .int8, dims := [16], deviceOffset := 8192, space := .l2tcm }]

end ComputePlanner
