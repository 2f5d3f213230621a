import ComputePlanner.Plan.Artifacts
import ComputePlanner.Proofs.Plan.Layout
import ComputePlanner.Proofs.Plan.Structure

/-! # Which configurations have a plan
Planning checks a configuration in many places: the target, the threads, each buffer by itself, its
place, and behind them the counters and widths of everything that is set up for a buffer. The checks
behind the first few never fail: every count is bounded by the number of doorbells, and every number
that is stored by the 32 bits in which each buffer ends. So a configuration has a plan exactly when
it passes the first checks, which **`ProgramConfig.Plannable`** lists.

Main statement: **`ProgramConfig.exists_plan_iff`**. -/

namespace ComputePlanner

namespace ProgramConfig

/-- The buffers that are asked for in a role. -/
def specs (c : ProgramConfig) : BufferRole → List BufferSpec
  | .input => c.inputs
  | .output => c.outputs
  | .internal => c.internals

/-- What a configuration needs for a plan. -/
structure Plannable (c : ProgramConfig) : Prop where
  /-- The hardware is the one that programs are planned for. -/
  hardware : c.hardwareMajor = 2 ∧ c.hardwareMinor = 0
  cores : 1 ≤ c.cores.toNat ∧ c.cores.toNat ≤ 16
  /-- A core has the threads, and the matrix threads are among them. -/
  threads : c.totalThreads ≤ 6 ∧ c.matrixThreads.toNat ≤ c.totalThreads
  /-- Every buffer can be had in its role and place. -/
  resolves : ∀ (role : BufferRole) (i : Nat) (s : BufferSpec), (c.specs role)[i]? = some s →
    ∃ b, s.resolve ⟨role, i⟩ c.cores = .ok b
  /-- In the scratch memory, a buffer starts behind the reserved part and ends in the first
  mebibyte. -/
  l2tcm : ∀ (role : BufferRole) (i : Nat) (s : BufferSpec) (b : Buffer),
    (c.specs role)[i]? = some s → s.resolve ⟨role, i⟩ c.cores = .ok b → b.space = .l2tcm →
      (Reservation.ofThreads c.totalThreads).stop ≤ b.start ∧ b.stop ≤ mebibyte
  /-- In the vector memory, a buffer ends in the first eight mebibytes. -/
  vtcm : ∀ (role : BufferRole) (i : Nat) (s : BufferSpec) (b : Buffer),
    (c.specs role)[i]? = some s → s.resolve ⟨role, i⟩ c.cores = .ok b → b.space = .vtcm →
      b.stop ≤ 8 * mebibyte
  /-- Every buffer can have a doorbell. -/
  count : c.inputs.length + c.outputs.length + c.internals.length ≤ 280

end ProgramConfig

/-! ## The buffers that are asked for -/

/-- The buffers are those that a configuration asks for. -/
structure BufferSet.Asked (bufs : BufferSet) (c : ProgramConfig) : Prop where
  inputs : resolveFrom .input c.cores 0 c.inputs = .ok bufs.inputs
  outputs : resolveFrom .output c.cores 0 c.outputs = .ok bufs.outputs
  internals : resolveFrom .internal c.cores 0 c.internals = .ok bufs.internals

namespace BufferSet.Asked

variable {c : ProgramConfig} {bufs : BufferSet}

/-- They are the buffers of the program. -/
theorem resolveAll (asked : bufs.Asked c) : c.resolveAll = .ok bufs.all := by
  rw [ProgramConfig.resolveAll, asked.inputs, ok_bind, asked.outputs, ok_bind, asked.internals]
  rfl

/-- There are as many that leave the device as are asked for. -/
theorem length_moved (asked : bufs.Asked c) :
    bufs.moved.length = c.inputs.length + c.outputs.length := by
  rw [moved, List.length_append, ((resolveFrom_eq_ok_iff ..).mp asked.inputs).1,
    ((resolveFrom_eq_ok_iff ..).mp asked.outputs).1]

/-- There are as many as are asked for. -/
theorem length_all (asked : bufs.Asked c) :
    bufs.all.length = c.inputs.length + c.outputs.length + c.internals.length := by
  rw [all, List.length_append, asked.length_moved,
    ((resolveFrom_eq_ok_iff ..).mp asked.internals).1]

/-- Each is what is asked for in some role and place. -/
theorem mem_all_iff (asked : bufs.Asked c) {b : Buffer} :
    b ∈ bufs.all ↔ ∃ (role : BufferRole) (i : Nat) (s : BufferSpec),
      (c.specs role)[i]? = some s ∧ s.resolve ⟨role, i⟩ c.cores = .ok b := by
  rw [all, moved, List.mem_append, List.mem_append, mem_resolveFrom_iff asked.inputs,
    mem_resolveFrom_iff asked.outputs, mem_resolveFrom_iff asked.internals]
  constructor
  · rintro ((input | output) | internal)
    · exact ⟨.input, input⟩
    · exact ⟨.output, output⟩
    · exact ⟨.internal, internal⟩
  · rintro ⟨role, place⟩
    cases role with
    | input => exact .inl (.inl place)
    | output => exact .inl (.inr place)
    | internal => exact .inr place

/-- Each was resolved. -/
theorem exists_resolved (asked : bufs.Asked c) {b : Buffer} (mem : b ∈ bufs.all) :
    ∃ (s : BufferSpec) (name : BufferName), s.Resolved name c.cores b := by
  obtain ⟨role, i, s, -, resolved⟩ := asked.mem_all_iff.mp mem
  exact ⟨s, ⟨role, i⟩, (BufferSpec.resolve_eq_ok_iff ..).mp resolved⟩

end BufferSet.Asked

/-- A configuration can have its buffers exactly if it can have each of them. -/
theorem ProgramConfig.exists_asked_iff (c : ProgramConfig) :
    (∃ bufs : BufferSet, bufs.Asked c) ↔
      ∀ (role : BufferRole) (i : Nat) (s : BufferSpec), (c.specs role)[i]? = some s →
        ∃ b, s.resolve ⟨role, i⟩ c.cores = .ok b := by
  have each (role : BufferRole) := exists_resolveFrom_iff role c.cores 0 (c.specs role)
  simp only [Nat.zero_add] at each
  constructor
  · rintro ⟨bufs, asked⟩ role
    refine (each role).mp ?_
    cases role with
    | input => exact ⟨_, asked.inputs⟩
    | output => exact ⟨_, asked.outputs⟩
    | internal => exact ⟨_, asked.internals⟩
  · intro all
    obtain ⟨inputs, hinputs⟩ := (each .input).mpr (all .input)
    obtain ⟨outputs, houtputs⟩ := (each .output).mpr (all .output)
    obtain ⟨internals, hinternals⟩ := (each .internal).mpr (all .internal)
    exact ⟨⟨inputs, outputs, internals⟩, hinputs, houtputs, hinternals⟩

/-! ## The checks behind -/

/-- A router can start, since the doorbell window is small. -/
theorem Router.exists_start (cores threads : Nat) :
    ∃ r, Router.start cores (Reservation.ofThreads threads).doorbellWindow = .ok r ∧
      r.count = 1 := by
  have window : fit32? (Reservation.ofThreads threads).doorbellWindow = some 1124 := by
    rw [Reservation.ofThreads_eq]
    rfl
  rw [start, window]
  exact ⟨_, rfl, rfl⟩

/-- Up to 280 buffers can be routed, since there are far more numbers for groups; the ring can be
routed behind them. -/
theorem exists_routeAll {r : Router} (first : r.count = 1) {bs : List Buffer}
    (count : bs.length ≤ 280) :
    ∃ groups r', routeAll r bs = .ok (groups, r') ∧ r'.count < groupLimit := by
  have groups : (groupsOf bs).length ≤ bs.length := List.length_filterMap_le ..
  have numbers : r.count + (groupsOf bs).length < groupLimit := by
    rw [groupLimit]
    omega
  refine ⟨_, _, (routeAll_eq_ok_iff ..).mpr ⟨fun _ => Nat.le_of_lt numbers, rfl, rfl⟩, ?_⟩
  have size : (r.groups ++ (groupsOf bs).toArray).size + 1 = r.count + (groupsOf bs).length := by
    have taken : (groupsOf bs).toArray.size = (groupsOf bs).length := List.size_toArray
    rw [Array.size_append, taken, Router.count]
    omega
  rw [Router.count, size]
  exact numbers

/-- The ring gets a group if a number is left. -/
theorem Router.exists_add_ring {r : Router} (free : r.count < groupLimit) (v : Reservation)
    (cores index : Nat) :
    ∃ number r', r.add (ringBuffer v cores index).space (ringBuffer v cores index).cores
      (ringBuffer v cores index).size (ringBuffer v cores index).baseOffset false
        = .ok (number, r') := by
  have memory : (ringBuffer v cores index).space.coreMemory? = some .l2tcm := rfl
  rw [add, next, memory]
  dsimp only
  rw [if_pos free]
  exact ⟨_, _, rfl⟩

/-- A handshake starts without slots if there are doorbells for all buffers. -/
theorem Handshake.exists_ofBuffers {bs : List Buffer} (count : bs.length ≤ 280) :
    ∃ h, Handshake.ofBuffers bs = .ok h ∧ h.slots = [] := by
  have enough : ¬firmwareSlots < bs.length + 1 := by
    rw [firmwareSlots]
    omega
  rw [ofBuffers, if_neg enough]
  exact ⟨_, rfl, rfl⟩

/-- Up to 280 buffers can be set up, if the loader can be told of each. -/
theorem Setup.exists_addAll {h : Handshake} (fresh : h.slots = []) (d : ProgramDescriptor)
    {bs : List Buffer} (count : bs.length ≤ 280)
    (fits : ∀ b ∈ bs, b.start < 2 ^ 32 ∧ b.cores.toNat < 2 ^ 16) (groups : List (Option UInt16)) :
    ∃ s, Setup.addAll ⟨h, #[], d⟩ (bs.zip groups) = .ok s := by
  have fewer : (bs.zip groups).length ≤ bs.length := by
    rw [List.length_zip]
    exact Nat.min_le_left ..
  refine ⟨_, addAll_of_fits ?_ (Nat.zero_le _) fun x mem => fits _ (List.of_mem_zip mem).1⟩
  dsimp only
  rw [fresh, List.length_nil, exitSlot, firmwareSlots]
  omega

/-- The loader can be told of the ring, whose place is known and which up to 16 cores hold. -/
theorem exists_bufferEntry_ring {cores : Nat} (few : cores ≤ maxCores) (threads index : Nat)
    (group : Option UInt16) :
    ∃ e, bufferEntry (ringBuffer (.ofThreads threads) cores index) group none = .ok e := by
  refine ⟨_, (bufferEntry_eq_ok_iff ..).mpr ⟨?_, by decide, toNat_allCoresMask_lt few, rfl⟩⟩
  have start : (ringBuffer (.ofThreads threads) cores index).start ≤ 0 + 1280 := by
    rw [Buffer.start, toNat_deviceOffset_ringBuffer]
    exact Nat.min_le_left ..
  omega

/-- The loader can be told of the dummy descriptor. -/
theorem exists_dummyOffset (threads : Nat) :
    ∃ w, narrow32 .dummyOffset (Reservation.ofThreads threads).dummyOffset = .ok w := by
  rw [Reservation.ofThreads_eq]
  exact ⟨1152, rfl⟩

namespace BufferSet.Asked

variable {c : ProgramConfig} {bufs : BufferSet}

/-- The loader can be told of every buffer of up to 16 cores. -/
theorem fits (asked : bufs.Asked c) (few : c.cores.toNat ≤ maxCores) {b : Buffer}
    (mem : b ∈ bufs.all) : b.start < 2 ^ 32 ∧ b.cores.toNat < 2 ^ 16 := by
  obtain ⟨s, name, resolved⟩ := asked.exists_resolved mem
  have below := resolved.stop_lt
  rw [Buffer.start_eq below]
  exact ⟨by omega, resolved.cores_lt few⟩

end BufferSet.Asked

namespace ProgramConfig

variable {c : ProgramConfig} {bufs : BufferSet}

/-- The buffers of a plannable configuration have their places. -/
theorem Plannable.placeable (h : c.Plannable) (asked : bufs.Asked c) {b : Buffer}
    (mem : b ∈ bufs.all) : b.Placeable (.ofThreads c.totalThreads) := by
  obtain ⟨role, i, s, known, resolved⟩ := asked.mem_all_iff.mp mem
  refine ⟨fun space => (h.l2tcm role i s b known resolved space).1, fun capacity limit => ?_⟩
  cases space : b.space with
  | l2tcm =>
    rw [space] at limit
    cases limit
    exact (h.l2tcm role i s b known resolved space).2
  | vtcm =>
    rw [space] at limit
    cases limit
    exact h.vtcm role i s b known resolved space
  | ddr =>
    rw [space] at limit
    cases limit

/-- **A plannable configuration has a plan**: no check behind the first ones fails. -/
theorem Plannable.exists_plan (h : c.Plannable) : ∃ p, c.plan = .ok p := by
  obtain ⟨bufs, asked⟩ := c.exists_asked_iff.mpr h.resolves
  have few : c.cores.toNat ≤ maxCores := h.cores.2
  have count : bufs.all.length ≤ 280 := asked.length_all ▸ h.count
  -- the checks of `Plannable`
  have target : c.checkTarget = .ok () := c.checkTarget_eq_ok_iff.mpr ⟨h.hardware, h.cores⟩
  have threads : c.threadPlan = .ok ⟨c.totalThreads, c.matrixThreads.toNat⟩ :=
    (c.threadPlan_eq_ok_iff _).mpr ⟨h.threads, rfl⟩
  have placed := ((Layout.within_ofReservation h.threads.1).placeAll_eq_ok_iff bufs.all _).mpr
    ⟨fun b mem => h.placeable asked mem, rfl⟩
  -- the checks behind them
  obtain ⟨start, started, first⟩ := Router.exists_start c.cores.toNat c.totalThreads
  obtain ⟨groups, router, routed, free⟩ := exists_routeAll first count
  obtain ⟨handshake, shaken, fresh⟩ := Handshake.exists_ofBuffers count
  obtain ⟨setup, added⟩ := Setup.exists_addAll fresh
    { exitSlot := UInt16.ofNat exitSlot, inputSemaphore, outputSemaphore,
      threads := UInt32.ofNat c.totalThreads } count (fun b => asked.fits few) groups
  -- the ring and the dummy descriptor
  obtain ⟨ringGroup, router', ringRouted⟩ := Router.exists_add_ring free
    (.ofThreads c.totalThreads) c.cores.toNat c.internals.length
  obtain ⟨ringEntry, ringTold⟩ :=
    exists_bufferEntry_ring few c.totalThreads c.internals.length (some ringGroup)
  obtain ⟨dummyOffset, dummyTold⟩ := exists_dummyOffset c.totalThreads
  rw [plan, target, ok_bind, threads, ok_bind, asked.resolveAll, ok_bind, placed, ok_bind, started,
    ok_bind, routed, ok_bind]
  dsimp only
  rw [shaken, ok_bind, added, ok_bind, ringRouted, ok_bind, ringTold, ok_bind, dummyTold,
    ok_bind]
  exact ⟨_, rfl⟩

end ProgramConfig

namespace Planned

variable {c : ProgramConfig} {p : ProgramPlan} {bufs : BufferSet}

/-- The buffers of a plan are those that are asked for. -/
theorem asked (planned : Planned c p bufs) : bufs.Asked c :=
  ⟨planned.inputs, planned.outputs, planned.internals⟩

/-- A core runs few threads. -/
theorem few_threads (planned : Planned c p bufs) : c.totalThreads ≤ maxThreads :=
  ((c.threadPlan_eq_ok_iff _).mp planned.threads).1.1

/-- The reserved part is that of the threads. -/
theorem reservation_eq (planned : Planned c p bufs) :
    p.reservation = .ofThreads c.totalThreads := by
  have threads := ((c.threadPlan_eq_ok_iff _).mp planned.threads).2
  rw [planned.reservation, threads]

/-- Every buffer that is asked for has its place. -/
theorem placeable (planned : Planned c p bufs) :
    ∀ b ∈ bufs.all, b.Placeable p.reservation := by
  obtain ⟨layout, placed, -⟩ := planned.placed
  rw [planned.reservation_eq] at placed ⊢
  exact (((Layout.within_ofReservation planned.few_threads).placeAll_eq_ok_iff ..).mp placed).1

/-- The memory used is that of the buffers that are asked for. -/
theorem resources_eq (planned : Planned c p bufs) :
    p.resources = ((Layout.ofReservation (.ofThreads c.totalThreads)).putAll bufs.all).used := by
  obtain ⟨layout, placed, used⟩ := planned.placed
  rw [planned.reservation_eq] at placed
  obtain ⟨-, rfl⟩ :=
    ((Layout.within_ofReservation planned.few_threads).placeAll_eq_ok_iff ..).mp placed
  exact used.symm

/-- No memory on the chip is used beyond its end. -/
theorem used_le (planned : Planned c p bufs) {space : AddressSpace} {capacity : Nat}
    (known : space.capacity? = some capacity) : p.resources.used space ≤ capacity := by
  have within := Layout.within_ofReservation planned.few_threads
  have placeable := planned.placeable
  rw [planned.reservation_eq] at placeable
  rw [planned.resources_eq]
  exact within.putAll placeable space capacity known

/-- A configuration with a plan is plannable. -/
theorem plannable (planned : Planned c p bufs) : c.Plannable := by
  have asked := planned.asked
  obtain ⟨hardware, cores⟩ := c.checkTarget_eq_ok_iff.mp planned.target
  obtain ⟨threads, -⟩ := (c.threadPlan_eq_ok_iff _).mp planned.threads
  have placeable := planned.placeable
  rw [planned.reservation_eq] at placeable
  have doorbells := planned.doorbells
  rw [firmwareSlots, asked.length_all] at doorbells
  refine
    { hardware
      cores
      threads
      resolves := c.exists_asked_iff.mp ⟨bufs, asked⟩
      l2tcm := fun role i s b known resolved space => ?_
      vtcm := fun role i s b known resolved space => ?_
      count := by omega }
  · have place := placeable b (asked.mem_all_iff.mpr ⟨role, i, s, known, resolved⟩)
    exact ⟨place.clear space, place.within mebibyte (congrArg AddressSpace.capacity? space)⟩
  · have place := placeable b (asked.mem_all_iff.mpr ⟨role, i, s, known, resolved⟩)
    exact place.within (8 * mebibyte) (congrArg AddressSpace.capacity? space)

end Planned

/-- **A configuration has a plan exactly if it is plannable.** Without one, everything that is made of a
plan fails with the same fault, which is laid to the configuration. -/
theorem ProgramConfig.exists_plan_iff (c : ProgramConfig) :
    ((∃ p, c.plan = .ok p) ↔ c.Plannable) ∧
      ∀ fault, c.plan = .error fault → ∀ entryPoint,
        c.generateMetadata entryPoint = .error (.config fault) ∧
          c.generate entryPoint = .error (.config fault) := by
  refine ⟨⟨fun ⟨p, h⟩ => ?_, Plannable.exists_plan⟩, fun fault failed entryPoint => ?_⟩
  · obtain ⟨bufs, planned⟩ := c.planned_of_plan h
    exact planned.plannable
  · -- planning is the first step of both
    rw [generateMetadata, generate, failed]
    exact ⟨rfl, rfl⟩

end ComputePlanner
