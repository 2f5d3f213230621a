import ComputePlanner.Descriptor.Network.Basic
import ComputePlanner.Proofs.Handshake.Invariant
import ComputePlanner.Proofs.Handshake.Masks

/-! # The handshake of a program
A plan says what happens in a batch: its transfers on their ports, and a signal of every core that
holds an input or an output. **`Planned.timed`** says that the plan's waits and resets fit these
signals, so that no order of steps breaks the handshake.

Main statement: **`ProgramConfig.safe_of_plan`**. -/

namespace ComputePlanner

namespace ProgramPlan

/-- A batch of the program: every core that holds an input, or an output, signals for it once, and
every port carries out its transfers. -/
def batch (p : ProgramPlan) : Batch where
  initial n := (p.handshake.semaphoreInit[n.toNat]?.getD 0).toNat
  cores d := holders p.buffers (NetworkDescriptor.roleOf d)
  transfers d := p.transfers.toList.filter (·.port = d.port)

/-- The values that the transfers of the program wait for and set. -/
def timing (p : ProgramPlan) : Timing where
  target
    | .inward => p.handshake.inputTarget
    | .outward => 0
  armed
    | .inward => 0
    | .outward => p.handshake.outputTarget

end ProgramPlan

/-! ## The operations of one direction -/

/-- Different directions have different ports. -/
theorem Direction.port_inj {d d' : Direction} : d.port = d'.port ↔ d = d' := by
  cases d <;> cases d' <;> decide

/-- The buffers that are moved in a direction. -/
def BufferSet.ofDirection (bufs : BufferSet) : Direction → List Buffer
  | .inward => bufs.inputs
  | .outward => bufs.outputs

namespace Handshake

/-- The number of buffers that are moved in a direction. -/
def count (h : Handshake) : Direction → Nat
  | .inward => h.inputs
  | .outward => h.outputs

/-- A buffer waits for its turn, and the last of its direction arms the semaphore. -/
theorem exists_semaphoreOps_eq (p : ProgramPlan) (d : Direction) {b : Buffer}
    (role : b.role = NetworkDescriptor.roleOf d) :
    ∃ wait arm : SemaphoreOp,
      (wait.Does .waitEq d.semaphore (p.timing.target d) ∧ wait.point = .pre) ∧
      (arm.Does .init d.semaphore (p.timing.armed d) ∧ arm.point = .post) ∧
      p.handshake.semaphoreOps b
        = wait :: if b.name.index + 1 = p.handshake.count d then [arm] else [] := by
  rw [semaphoreOps, role]
  cases d with
  | inward => exact ⟨_, _, ⟨⟨rfl, rfl, rfl⟩, rfl⟩, ⟨⟨rfl, rfl, rfl⟩, rfl⟩, rfl⟩
  | outward => exact ⟨_, _, ⟨⟨rfl, rfl, rfl⟩, rfl⟩, ⟨⟨rfl, rfl, rfl⟩, rfl⟩, rfl⟩

/-- The wait stands before the transfer and the reset, if there is one, behind it. -/
theorem opsAt_transferOf (p : ProgramPlan) (d : Direction) {b : Buffer}
    (role : b.role = NetworkDescriptor.roleOf d) (number slot : Nat) (group : Option UInt16) :
    (∃ op, (p.handshake.transferOf number slot b group).opsAt .pre = [op] ∧
      op.Does .waitEq d.semaphore (p.timing.target d)) ∧
    (b.name.index + 1 = p.handshake.count d →
      ∃ op, (p.handshake.transferOf number slot b group).opsAt .post = [op] ∧
        op.Does .init d.semaphore (p.timing.armed d)) ∧
    (b.name.index + 1 ≠ p.handshake.count d →
      (p.handshake.transferOf number slot b group).opsAt .post = []) := by
  obtain ⟨wait, arm, ⟨waits, before⟩, ⟨arms, behind⟩, ops⟩ := exists_semaphoreOps_eq p d role
  have ops_at (point : SyncPoint) : (p.handshake.transferOf number slot b group).opsAt point
      = (wait :: if b.name.index + 1 = p.handshake.count d then [arm] else []).filter
        (·.point = point) := by rw [Transfer.opsAt, transferOf, ops]
  rw [ops_at, ops_at]
  by_cases last : b.name.index + 1 = p.handshake.count d
  · rw [if_pos last]
    simp only [List.filter_cons, List.filter_nil, before, behind, decide_true, reduceCtorEq,
      decide_false, ↓reduceIte, Bool.false_eq_true]
    exact ⟨⟨wait, rfl, waits⟩, fun _ => ⟨arm, rfl, arms⟩, fun other => absurd last other⟩
  · rw [if_neg last]
    simp only [List.filter_cons, List.filter_nil, before, decide_true, reduceCtorEq,
      decide_false, ↓reduceIte, Bool.false_eq_true]
    exact ⟨⟨wait, rfl, waits⟩, fun is => absurd is last, fun _ => trivial⟩

/-- Transfers of buffers that are numbered up to the count are scheduled. -/
theorem scheduled_transferOf (p : ProgramPlan) (d : Direction) (number index : Nat)
    (xs : List (Buffer × Option UInt16))
    (named : ∀ (i : Nat) (x : Buffer × Option UInt16), xs[i]? = some x →
      x.1.name = ⟨NetworkDescriptor.roleOf d, index + i⟩)
    (count : index + xs.length = p.handshake.count d) :
    Scheduled p.timing d (xs.mapIdx fun i x =>
      p.handshake.transferOf (number + i) (number + i) x.1 x.2) := by
  -- along the buffers; the last of them has the last name
  induction xs generalizing number index with
  | nil => trivial
  | cons x xs ih =>
    have name : x.1.name = ⟨NetworkDescriptor.roleOf d, index⟩ := named 0 x rfl
    have role : x.1.role = NetworkDescriptor.roleOf d := by rw [Buffer.role, name]
    rw [List.length_cons] at count
    rw [List.mapIdx_cons]
    obtain ⟨waits, arms, leaves⟩ := opsAt_transferOf p d role (number + 0) (number + 0) x.2
    refine ⟨waits, fun last => arms ?_, fun left => leaves ?_, ?_⟩
    · have none : xs = [] := List.mapIdx_eq_nil_iff.mp last
      rw [name, ← count, none]
      rfl
    · have some : xs ≠ [] := fun none => left (List.mapIdx_eq_nil_iff.mpr none)
      have := List.length_pos_iff.mpr some
      rw [name, ← count]
      dsimp only
      omega
    · have shift : (fun i (x : Buffer × Option UInt16) =>
          p.handshake.transferOf (number + (i + 1)) (number + (i + 1)) x.1 x.2)
          = fun i x => p.handshake.transferOf (number + 1 + i) (number + 1 + i) x.1 x.2 := by
        funext i x
        rw [Nat.add_right_comm number 1 i]
        rfl
      rw [shift]
      refine ih (number + 1) (index + 1) (fun i x given => ?_) (by omega)
      rw [named (i + 1) x given, Nat.add_right_comm, Nat.add_assoc]

/-- The transfers of buffers of one direction are all on its port. -/
theorem filter_port_transferOf (h : Handshake) (d d' : Direction) (number : Nat)
    (xs : List (Buffer × Option UInt16)) (role : ∀ x ∈ xs, x.1.role = NetworkDescriptor.roleOf d') :
    (xs.mapIdx fun i x => h.transferOf (number + i) (number + i) x.1 x.2).filter (·.port = d.port)
      = if d' = d then xs.mapIdx fun i x => h.transferOf (number + i) (number + i) x.1 x.2
        else [] := by
  -- the port of a transfer is that of its buffer's direction
  have port {t : Transfer}
      (mem : t ∈ xs.mapIdx fun i x => h.transferOf (number + i) (number + i) x.1 x.2) :
      t.port = d'.port := by
    obtain ⟨i, inside, rfl⟩ := List.mem_mapIdx.mp mem
    have role := role _ (List.getElem_mem inside)
    show (xs[i].1.direction).port = d'.port
    rw [Buffer.direction, role]
    cases d' with
    | inward => rfl
    | outward => rfl
  by_cases same : d' = d
  · rw [if_pos same, List.filter_eq_self]
    intro t mem
    rw [port mem, same, decide_eq_true rfl]
  · rw [if_neg same, List.filter_eq_nil_iff]
    intro t mem
    rw [port mem, decide_eq_true_iff]
    exact fun ports => same (Direction.port_inj.mp ports)

end Handshake

/-! ## The batches of a plan -/

namespace Planned

variable {c : ProgramConfig} {p : ProgramPlan} {bufs : BufferSet}

/-- The buffers of a direction have the names of their places. -/
theorem name_of_ofDirection (planned : Planned c p bufs) (d : Direction) {i : Nat} {b : Buffer}
    (given : (bufs.ofDirection d)[i]? = some b) :
    b.name = ⟨NetworkDescriptor.roleOf d, i⟩ := by
  cases d with
  | inward => rw [name_of_resolveFrom planned.inputs given, Nat.zero_add]; rfl
  | outward => rw [name_of_resolveFrom planned.outputs given, Nat.zero_add]; rfl

/-- The buffers of a direction are those of its role. -/
theorem mem_ofDirection_iff (planned : Planned c p bufs) (d : Direction) (b : Buffer) :
    b ∈ bufs.ofDirection d ↔ b ∈ p.buffers ∧ b.role = NetworkDescriptor.roleOf d := by
  have sorted := planned.sorted
  rw [planned.buffers, BufferSet.all, BufferSet.moved, List.append_assoc, List.append_assoc,
    List.mem_append, List.mem_append, List.mem_append]
  constructor
  · intro mem
    cases d with
    | inward => exact ⟨.inl mem, sorted.inputs b mem⟩
    | outward => exact ⟨.inr (.inl mem), sorted.outputs b mem⟩
  · rintro ⟨mem | mem | mem | mem, role⟩
    · rw [sorted.inputs b mem] at role
      cases d with
      | inward => exact mem
      | outward => cases role
    · rw [sorted.outputs b mem] at role
      cases d with
      | inward => cases role
      | outward => exact mem
    · rw [sorted.internals b mem] at role
      cases d <;> cases role
    · rw [List.mem_singleton.mp mem] at role
      cases d <;> cases role

/-- A port carries out the transfers of the buffers of its direction. -/
theorem exists_transfers_eq (planned : Planned c p bufs) (d : Direction) :
    ∃ (number : Nat) (groups : List (Option UInt16)),
      (bufs.ofDirection d).length ≤ groups.length ∧
      p.batch.transfers d = ((bufs.ofDirection d).zip groups).mapIdx fun i x =>
        p.handshake.transferOf (number + i) (number + i) x.1 x.2 := by
  have enough : bufs.inputs.length + bufs.outputs.length ≤ p.groups.length := by
    rw [planned.length_groups, planned.buffers, BufferSet.all, BufferSet.moved]
    simp only [List.length_append]
    omega
  -- the inputs have the front of the groups, the outputs what is behind
  have parts : bufs.moved.zip p.groups = bufs.inputs.zip (p.groups.take bufs.inputs.length)
      ++ bufs.outputs.zip (p.groups.drop bufs.inputs.length) := by
    rw [BufferSet.moved, ← List.zip_append (by rw [List.length_take]; omega),
      List.take_append_drop]
  have count : (bufs.inputs.zip (p.groups.take bufs.inputs.length)).length
      = bufs.inputs.length := by
    rw [List.length_zip, List.length_take]
    omega
  have queue : p.transfers.toList
      = ((bufs.inputs.zip (p.groups.take bufs.inputs.length)).mapIdx fun i x =>
          p.handshake.transferOf (0 + i) (0 + i) x.1 x.2)
        ++ ((bufs.outputs.zip (p.groups.drop bufs.inputs.length)).mapIdx fun i x =>
          p.handshake.transferOf (bufs.inputs.length + i) (bufs.inputs.length + i) x.1 x.2) := by
    rw [planned.transfers, parts, List.mapIdx_append, count]
    simp only [Nat.zero_add, Nat.add_comm bufs.inputs.length]
  show ∃ number groups, _ ∧ p.transfers.toList.filter (·.port = d.port) = _
  rw [queue, List.filter_append,
    Handshake.filter_port_transferOf _ d .inward _ _ fun x mem =>
      planned.sorted.inputs _ (List.of_mem_zip mem).1,
    Handshake.filter_port_transferOf _ d .outward _ _ fun x mem =>
      planned.sorted.outputs _ (List.of_mem_zip mem).1]
  cases d with
  | inward =>
    rw [if_pos rfl, if_neg (show Direction.outward ≠ .inward by decide), List.append_nil]
    refine ⟨0, _, ?_, rfl⟩
    show bufs.inputs.length ≤ _
    rw [List.length_take]
    omega
  | outward =>
    rw [if_neg (show Direction.inward ≠ .outward by decide), if_pos rfl, List.nil_append]
    refine ⟨bufs.inputs.length, _, ?_, rfl⟩
    show bufs.outputs.length ≤ _
    rw [List.length_drop]
    omega

/-- The handshake counts the buffers of a direction. -/
theorem length_ofDirection (planned : Planned c p bufs) (d : Direction) :
    (bufs.ofDirection d).length = p.handshake.count d := by
  rw [planned.handshake]
  cases d with
  | inward => rfl
  | outward => rfl

/-- The number of cores in a mask is kept in 16 bits, and the ring does not count. -/
theorem toNat_ofNat_coreTotal (planned : Planned c p bufs) (role : BufferRole)
    (moved : role ≠ .internal) :
    (UInt16.ofNat (coreTotal (Handshake.coresOf role bufs.all))).toNat
      = coreTotal (Handshake.coresOf role p.buffers) := by
  rw [planned.coresOf_buffers moved]
  exact UInt16.toNat_ofNat_of_lt' ((coreTotal_le _).trans_lt (by decide))

/-- Inputs wait for as many signals as there are cores that hold one. -/
theorem toNat_inputTarget (planned : Planned c p bufs) :
    p.handshake.inputTarget.toNat = coreTotal (Handshake.coresOf .input p.buffers) := by
  rw [Handshake.inputTarget, planned.handshake]
  exact planned.toNat_ofNat_coreTotal .input nofun

/-- Outputs are armed with as many signals as there are cores that hold one. -/
theorem toNat_outputTarget (planned : Planned c p bufs) :
    p.handshake.outputTarget.toNat = coreTotal (Handshake.coresOf .output p.buffers) := by
  rw [Handshake.outputTarget, planned.handshake]
  exact planned.toNat_ofNat_coreTotal .output nofun

/-- **The waits and resets of a plan fit the signals of its cores.** -/
theorem timed (planned : Planned c p bufs) : p.batch.Timed p.timing where
  initial d := by
    cases d with
    | inward => rfl
    | outward =>
      show (p.handshake.outputTarget.toUInt32.toNat : Int) = p.handshake.outputTarget.toNat
      rw [UInt16.toNat_toUInt32]
  reached d := by
    cases d with
    | inward =>
      show (p.handshake.inputTarget.toNat : Int)
        = (0 : UInt16).toNat + 1 * (holders p.buffers .input).length
      rw [length_holders, planned.toNat_inputTarget, Int.one_mul, UInt16.toNat_zero,
        Int.natCast_zero, Int.zero_add]
    | outward =>
      show ((0 : UInt16).toNat : Int)
        = p.handshake.outputTarget.toNat + -1 * (holders p.buffers .output).length
      rw [length_holders, planned.toNat_outputTarget, UInt16.toNat_zero]
      omega
  scheduled d := by
    obtain ⟨number, groups, enough, queue⟩ := planned.exists_transfers_eq d
    rw [queue]
    refine Handshake.scheduled_transferOf p d number 0 _ (fun i x given => ?_) ?_
    · rw [Nat.zero_add]
      exact planned.name_of_ofDirection d (List.getElem?_zip_eq_some.mp given).1
    · rw [Nat.zero_add, List.length_zip, Nat.min_eq_left enough, planned.length_ofDirection]
  moved d held := by
    -- a core that signals holds a buffer, and that buffer is transferred
    obtain ⟨core, holder⟩ := List.exists_mem_of_ne_nil _ held
    obtain ⟨b, mem, holds⟩ := List.any_eq_true.mp (List.mem_filter.mp holder).2
    have role := of_decide_eq_true (Bool.and_eq_true_iff.mp holds).1
    have some := List.length_pos_of_mem ((planned.mem_ofDirection_iff d b).mpr ⟨mem, role⟩)
    obtain ⟨number, groups, enough, queue⟩ := planned.exists_transfers_eq d
    rw [← List.length_pos_iff, queue, List.length_mapIdx, List.length_zip,
      Nat.min_eq_left enough]
    exact some

/-- Every transfer is on the port of its direction. -/
theorem mem_batch_transfers (planned : Planned c p bufs) {t : Transfer}
    (mem : t ∈ p.transfers.toList) : t ∈ p.batch.transfers t.direction := by
  obtain ⟨i, b, group, -, rfl⟩ := planned.exists_of_mem_transfers mem
  exact List.mem_filter.mpr ⟨mem, decide_eq_true rfl⟩

end Planned

/-- **The handshake of every plan is safe**: in every order of steps and over any number of batches.
Inputs wait for as many signals as the loader's mask of the inputs has cores, and the last output
arms the other semaphore with the number of cores in the mask of the outputs. -/
theorem ProgramConfig.safe_of_plan {c : ProgramConfig} {p : ProgramPlan} (h : c.plan = .ok p) :
    (∀ s, p.batch.Reachable s → p.batch.Safe s) ∧
    (∀ t ∈ p.transfers.toList, t.direction = .inward → ∃ op, t.opsAt .pre = [op] ∧
      op.Does .waitEq inputSemaphore p.handshake.inputTarget) ∧
    p.handshake.inputTarget.toNat = coreTotal (p.descriptor.coresOf .input).toUInt32 ∧
    (∀ t, (p.batch.transfers .outward).getLast? = some t → ∃ op, t.opsAt .post = [op] ∧
      op.Does .init outputSemaphore p.handshake.outputTarget) ∧
    p.handshake.outputTarget.toNat = coreTotal (p.descriptor.coresOf .output).toUInt32 := by
  obtain ⟨bufs, planned⟩ := c.planned_of_plan h
  have timed := planned.timed
  refine ⟨fun s reachable => timed.safe reachable, fun t mem inward => ?_, ?_, fun t last => ?_, ?_⟩
  · have queued := planned.mem_batch_transfers mem
    rw [inward] at queued
    exact (timed.scheduled .inward).wait_of_mem queued
  · rw [planned.toNat_inputTarget, planned.toUInt32_coresOf]
  · exact (timed.scheduled .outward).arm_of_getLast? last
  · rw [planned.toNat_outputTarget, planned.toUInt32_coresOf]

/-- The small configuration has a plan; both of its cores signal for the inputs, and one for the
output. -/
theorem ProgramConfig.safe_of_plan_small :
    ∃ p, small.plan = .ok p ∧ (∀ s, p.batch.Reachable s → p.batch.Safe s) ∧
      p.batch.cores .inward = [0, 1] ∧ p.batch.cores .outward = [1] := by
  have planned : small.plan.isOk = true := by decide +kernel
  cases given : small.plan with
  | ok p =>
    have cores : small.plan.map (fun p => (p.batch.cores .inward, p.batch.cores .outward))
        = .ok ([0, 1], [1]) := by decide +kernel
    rw [given] at cores
    obtain ⟨inward, outward⟩ := Prod.mk.inj (Except.ok.inj cores)
    exact ⟨p, rfl, (safe_of_plan given).1, inward, outward⟩
  | error fault =>
    rw [given] at planned
    cases planned

end ComputePlanner
