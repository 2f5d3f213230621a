import ComputePlanner.Descriptor.Network.Basic
import ComputePlanner.Proofs.Except

/-! # What the network descriptor says by place
The host's view is written from the configuration alone: first the inputs, then the outputs, each
with a tensor and a transfer buffer. **`NetworkDescriptor.Described`** says what stands in each
place of the lists that come out. Main statement: **`NetworkDescriptor.described_of_ofConfig`**. -/

namespace ComputePlanner

namespace ProgramConfig

/-- The buffers that leave the device, in the order they are processed. -/
def moved (c : ProgramConfig) : List BufferSpec := c.inputs ++ c.outputs

/-- The direction in which the buffer in a place is moved: inputs come first. -/
def directionAt (c : ProgramConfig) (i : Nat) : Direction :=
  if i < c.inputs.length then .inward else .outward

end ProgramConfig

namespace NetworkDescriptor

/-- A transfer buffer is as large as its buffer, if that has a size. -/
theorem transferBufferOf_eq_ok_iff (name : BufferName) (s : BufferSpec) (direction : Direction)
    (x : TransferBuffer) :
    transferBufferOf name s direction = .ok x ↔
      ∃ size, s.byteSize? = some size ∧ x = ⟨UInt64.ofNat size, direction⟩ := by
  rw [transferBufferOf]
  cases s.byteSize? with
  | some size => simp [eq_comm]
  | none => simp

/-- The buffers of a direction are described in their places. -/
theorem describe_eq_ok {direction : Direction} {index buffer : Nat} {specs : List BufferSpec}
    {pairs : List (Tensor × TransferBuffer)}
    (h : describe direction index buffer specs = .ok pairs) :
    pairs.length = specs.length ∧
    ∀ (i : Nat) (s : BufferSpec), specs[i]? = some s → ∃ size, s.byteSize? = some size ∧
      pairs[i]? = some (tensorOf ⟨roleOf direction, index + i⟩ s direction (buffer + i),
        ⟨UInt64.ofNat size, direction⟩) := by
  induction specs generalizing index buffer pairs with
  | nil =>
    cases h
    refine ⟨rfl, fun i s asked => ?_⟩
    rw [List.getElem?_nil] at asked
    cases asked
  | cons s specs ih =>
    rw [describe] at h
    dsimp only at h
    split at h
    · cases h
    · obtain ⟨x, transferred, h⟩ := bind_eq_ok.mp h
      obtain ⟨rest, described, h⟩ := bind_eq_ok.mp h
      cases h
      obtain ⟨size, known, rfl⟩ := (transferBufferOf_eq_ok_iff ..).mp transferred
      obtain ⟨length, each⟩ := ih described
      refine ⟨congrArg (· + 1) length, fun i s' asked => ?_⟩
      cases i with
      | zero =>
        cases asked
        exact ⟨size, known, rfl⟩
      | succ i =>
        obtain ⟨size', known', found⟩ := each i s' asked
        refine ⟨size', known', ?_⟩
        rw [List.getElem?_cons_succ, found, Nat.add_right_comm index, Nat.add_right_comm buffer]
        rfl

/-- Buffers of a direction can be described exactly if each has a size and the inputs among them that
may be transferred in part have one dimension. -/
theorem exists_describe_iff (direction : Direction) (index buffer : Nat) (specs : List BufferSpec) :
    (∃ pairs, describe direction index buffer specs = .ok pairs) ↔
      ∀ s ∈ specs, s.byteSize?.isSome = true ∧
        (direction = .inward → s.allowPartial = true → s.dims.length = 1) := by
  induction specs generalizing index buffer with
  | nil => exact iff_of_true ⟨[], rfl⟩ nofun
  | cons s specs ih =>
    rw [describe, List.forall_mem_cons]
    dsimp only
    split
    · next partly =>
      refine iff_of_false nofun fun all => ?_
      exact partly.2.2 (all.1.2 partly.1 partly.2.1)
    · next whole =>
      have shape : direction = .inward → s.allowPartial = true → s.dims.length = 1 := by
        intro inward partly
        exact Classical.not_not.mp fun other => whole ⟨inward, partly, other⟩
      constructor
      · rintro ⟨pairs, described⟩
        obtain ⟨x, transferred, described⟩ := bind_eq_ok.mp described
        obtain ⟨rest, others, -⟩ := bind_eq_ok.mp described
        obtain ⟨size, known, -⟩ := (transferBufferOf_eq_ok_iff ..).mp transferred
        exact ⟨⟨Option.isSome_iff_exists.mpr ⟨size, known⟩, shape⟩, (ih ..).mp ⟨rest, others⟩⟩
      · rintro ⟨⟨sized, -⟩, all⟩
        obtain ⟨size, known⟩ := Option.isSome_iff_exists.mp sized
        obtain ⟨rest, others⟩ := (ih (index + 1) (buffer + 1)).mpr all
        have transferred := (transferBufferOf_eq_ok_iff ⟨roleOf direction, index⟩ s direction _).mpr
          ⟨size, known, rfl⟩
        rw [transferred, ok_bind, others, ok_bind]
        exact ⟨_, rfl⟩

/-- If every buffer has a size, describing them fails on account of the shape of an input only. -/
theorem describe_eq_error {direction : Direction} {index buffer : Nat} {specs : List BufferSpec}
    {fault : ConfigFault} (sized : ∀ s ∈ specs, s.byteSize?.isSome = true)
    (h : describe direction index buffer specs = .error fault) :
    direction = .inward ∧ ∃ (i : Nat) (s : BufferSpec), specs[i]? = some s ∧
      s.allowPartial = true ∧ s.dims.length ≠ 1 ∧
      fault = .buffer ⟨.input, index + i⟩ (.partialShape s.dims.length) := by
  induction specs generalizing index buffer with
  | nil => cases h
  | cons s specs ih =>
    obtain ⟨here, later⟩ := List.forall_mem_cons.mp sized
    rw [describe] at h
    dsimp only at h
    split at h
    · next partly =>
      obtain ⟨rfl, partly, shape⟩ := partly
      cases h
      exact ⟨rfl, 0, s, rfl, partly, shape, rfl⟩
    · obtain ⟨size, known⟩ := Option.isSome_iff_exists.mp here
      have transferred := (transferBufferOf_eq_ok_iff ⟨roleOf direction, index⟩ s direction _).mpr
        ⟨size, known, rfl⟩
      rw [transferred, ok_bind] at h
      cases others : describe direction (index + 1) (buffer + 1) specs with
      | ok rest =>
        rw [others] at h
        cases h
      | error fault' =>
        rw [others] at h
        cases h
        obtain ⟨inward, i, s', asked, partly, shape, named⟩ := ih later others
        refine ⟨inward, i + 1, s', asked, partly, shape, ?_⟩
        rw [named, Nat.add_assoc, Nat.add_comm 1 i]

/-- If the threads are planned and every buffer that leaves the device has a size, the host's view can
be written exactly if the inputs that may be transferred in part have one dimension. -/
theorem exists_ofConfig_iff {c : ProgramConfig} {t : ThreadPlan} (planned : c.threadPlan = .ok t)
    (sized : ∀ s ∈ c.moved, s.byteSize?.isSome = true) :
    (∃ d, ofConfig c = .ok d) ↔ ∀ s ∈ c.inputs, s.allowPartial = true → s.dims.length = 1 := by
  obtain ⟨sizedInputs, sizedOutputs⟩ := List.forall_mem_append.mp sized
  -- outputs are transferred as a whole, so their shape does not matter
  obtain ⟨outputs, houtputs⟩ := (exists_describe_iff .outward 0 c.inputs.length c.outputs).mpr
    fun s mem => ⟨sizedOutputs s mem, nofun⟩
  constructor
  · rintro ⟨d, written⟩ s mem
    obtain ⟨t', -, written⟩ := bind_eq_ok.mp written
    obtain ⟨inputs, hinputs, -⟩ := bind_eq_ok.mp written
    exact ((exists_describe_iff ..).mp ⟨inputs, hinputs⟩ s mem).2 rfl
  · intro shapes
    obtain ⟨inputs, hinputs⟩ := (exists_describe_iff .inward 0 0 c.inputs).mpr
      fun s mem => ⟨sizedInputs s mem, fun _ => shapes s mem⟩
    rw [ofConfig, planned, ok_bind, hinputs, ok_bind, houtputs, ok_bind]
    exact ⟨_, rfl⟩

/-- If the threads are planned and every buffer that leaves the device has a size, nothing but the
shape of an input keeps the host's view from being written. -/
theorem ofConfig_eq_error {c : ProgramConfig} {t : ThreadPlan} (planned : c.threadPlan = .ok t)
    (sized : ∀ s ∈ c.moved, s.byteSize?.isSome = true) {fault : ConfigFault}
    (h : ofConfig c = .error fault) :
    ∃ (i : Nat) (s : BufferSpec), c.inputs[i]? = some s ∧ s.allowPartial = true ∧
      s.dims.length ≠ 1 ∧ fault = .buffer ⟨.input, i⟩ (.partialShape s.dims.length) := by
  obtain ⟨sizedInputs, sizedOutputs⟩ := List.forall_mem_append.mp sized
  rw [ofConfig, planned, ok_bind] at h
  cases inputs : describe .inward 0 0 c.inputs with
  | error fault' =>
    rw [inputs] at h
    cases h
    obtain ⟨-, i, s, asked, partly, shape, named⟩ := describe_eq_error sizedInputs inputs
    rw [Nat.zero_add] at named
    exact ⟨i, s, asked, partly, shape, named⟩
  | ok pairs =>
    rw [inputs, ok_bind] at h
    cases outputs : describe .outward 0 c.inputs.length c.outputs with
    | error fault' => exact nomatch (describe_eq_error sizedOutputs outputs).1
    | ok pairs' =>
      rw [outputs] at h
      cases h

/-- A network descriptor for a configuration that runs given threads. -/
structure Described (c : ProgramConfig) (t : ThreadPlan) (d : NetworkDescriptor) : Prop where
  threadPlan : c.threadPlan = .ok t
  cores : d.cores = c.cores
  threads : d.threads = UInt32.ofNat t.total
  vectorThreads : d.vectorThreads = UInt32.ofNat t.vector
  threadGroups : d.threadGroups = List.replicate t.vector 0 ++ List.replicate t.matrix 1
  /-- There is a transfer buffer for every buffer that leaves the device. -/
  count : d.buffers.length = c.moved.length
  /-- Its number, on the tensor's side, is its place. -/
  place : ∀ (i : Nat) (s : BufferSpec), c.moved[i]? = some s →
    ∃ (name : BufferName) (size : Nat), s.byteSize? = some size ∧
      (d.inputs ++ d.outputs)[i]? = some (tensorOf name s (c.directionAt i) i) ∧
      d.buffers[i]? = some ⟨UInt64.ofNat size, c.directionAt i⟩

/-- **Every network descriptor is of this form.** -/
theorem described_of_ofConfig {c : ProgramConfig} {d : NetworkDescriptor}
    (h : ofConfig c = .ok d) : ∃ t, Described c t d := by
  obtain ⟨t, planned, h⟩ := bind_eq_ok.mp h
  obtain ⟨inputs, hinputs, h⟩ := bind_eq_ok.mp h
  obtain ⟨outputs, houtputs, h⟩ := bind_eq_ok.mp h
  cases h
  obtain ⟨inputCount, inputAt⟩ := describe_eq_ok hinputs
  obtain ⟨outputCount, outputAt⟩ := describe_eq_ok houtputs
  refine ⟨t, ⟨planned, rfl, rfl, rfl, rfl, ?_, fun i s asked => ?_⟩⟩
  · simp only [List.length_append, List.length_map, ProgramConfig.moved, inputCount, outputCount]
  · dsimp only
    rw [ProgramConfig.moved] at asked
    -- both lists are the parts of one list of pairs
    rw [← List.map_append, ← List.map_append, List.getElem?_map, List.getElem?_map,
      ProgramConfig.directionAt]
    by_cases first : i < c.inputs.length
    · rw [List.getElem?_append_left first] at asked
      obtain ⟨size, known, found⟩ := inputAt i s asked
      rw [if_pos first, List.getElem?_append_left (inputCount ▸ first), found]
      refine ⟨⟨.input, 0 + i⟩, size, known, ?_, rfl⟩
      rw [Option.map_some, Nat.zero_add]
      rfl
    · have behind : c.inputs.length ≤ i := Nat.le_of_not_lt first
      rw [List.getElem?_append_right behind] at asked
      obtain ⟨size, known, found⟩ := outputAt (i - c.inputs.length) s asked
      have place : c.inputs.length + (i - c.inputs.length) = i := by omega
      rw [if_neg first, List.getElem?_append_right (inputCount ▸ behind), inputCount, found, place]
      exact ⟨_, size, known, rfl, rfl⟩

end NetworkDescriptor

end ComputePlanner
