import ComputePlanner.Proofs.Descriptor.Network
import ComputePlanner.Proofs.Plan.Document
import ComputePlanner.Proofs.Plan.Memory

/-! # When artifacts are generated
Behind a plan, generating the artifacts checks much again: the writer of the document its semaphores,
its image, its cores, its mappings and that it is complete, the descriptor of the network the sizes of
the buffers, and both the widths of their numbers. None of these checks can fail for what a plan
holds. What is left are the two things that planning does not look at: where the threads start, and
the shape of inputs that may be transferred in part.

Main statement: **`ProgramConfig.generation`**. -/

namespace ComputePlanner

/-- A buffer whose bytes fit 32 bits has a size. -/
theorem BufferSpec.isSome_byteSize?_of_checkedSize {s : BufferSpec} {size : UInt32}
    (checked : s.checkedSize = .ok size) : s.byteSize?.isSome = true := by
  cases known : s.byteSize? with
  | some bytes => rfl
  | none =>
    -- a size that fits no address counts as the last address, which 32 bits do not hold
    have large : fit32? Buffer.lastAddress = none := by decide
    rw [checkedSize, known, Option.getD_none, large] at checked
    split at checked
    · cases checked
    · cases checked

namespace Planned

variable {c : ProgramConfig} {p : ProgramPlan} {bufs : BufferSet}

/-- Every buffer that leaves the device has a size. -/
theorem isSome_byteSize? (planned : Planned c p bufs) :
    ∀ s ∈ c.moved, s.byteSize?.isSome = true := by
  -- each was resolved, and its bytes were counted then
  have sized (role : BufferRole) :
      ∀ s ∈ c.specs role, s.byteSize?.isSome = true := by
    intro s mem
    obtain ⟨i, asked⟩ := List.getElem?_of_mem mem
    obtain ⟨b, resolved⟩ := planned.plannable.resolves role i s asked
    exact BufferSpec.isSome_byteSize?_of_checkedSize
      ((BufferSpec.resolve_eq_ok_iff ..).mp resolved).size
  exact List.forall_mem_append.mpr ⟨sized .input, sized .output⟩

/-- The constants are short: there are at most 281 entries of 40 bytes behind the header. -/
theorem encodedSize_le (planned : Planned c p bufs) : p.descriptor.encodedSize ≤ 11280 := by
  have doorbells := planned.doorbells
  rw [firmwareSlots] at doorbells
  rw [ProgramDescriptor.encodedSize, planned.length_entries, ProgramDescriptor.headerSize,
    BufferEntry.encodedSize]
  omega

/-- The document says how long the constants are. -/
theorem toNat_encodedSize (planned : Planned c p bufs) :
    (UInt64.ofNat p.descriptor.encodedSize).toNat = p.descriptor.encodedSize :=
  UInt64.toNat_ofNat_of_lt' (Nat.lt_of_le_of_lt planned.encodedSize_le (by decide))

/-- 32 bits hold the length of the constants. -/
theorem toNat_encodedSize_lt (planned : Planned c p bufs) :
    (UInt64.ofNat p.descriptor.encodedSize).toNat < 2 ^ 32 := by
  rw [planned.toNat_encodedSize]
  exact Nat.lt_of_le_of_lt planned.encodedSize_le (by decide)

/-- **The draft of a plan is complete.** -/
theorem complete (planned : Planned c p bufs) (entryPoint constants : UInt64) :
    (p.draft c entryPoint constants).Complete := by
  have cores := planned.cores_bounds
  have laidOut := planned.laidOut
  have vtcmFits := laidOut.vtcmFits
  have l2tcmFits := laidOut.l2tcmFits
  have reserved := planned.ring_bounds.2.1
  -- one byte of the vector memory is used, and the reserved part of the scratch memory
  have vtcm : 1 ≤ p.resources.vtcm := laidOut.vtcm.2 (Set.mem_insert ..)
  have l2tcm : p.reservation.stop ≤ p.resources.l2tcm := laidOut.l2tcm.2 (Set.mem_insert ..)
  rw [maxCores] at cores
  rw [mebibyte] at vtcmFits l2tcmFits
  have router : p.router.cores = c.cores.toNat := by rw [planned.router]
  -- words that hold a number other than 0
  have word16 {n : Nat} (positive : 0 < n) (small : n < 2 ^ 16) : UInt16.ofNat n ≠ 0 := by
    intro zero
    have number := UInt16.toNat_ofNat_of_lt' small
    rw [zero] at number
    exact Nat.ne_of_lt positive number
  have word32 {n : Nat} (positive : 0 < n) (small : n < 2 ^ 32) : UInt32.ofNat n ≠ 0 := by
    intro zero
    have number := UInt32.toNat_ofNat_of_lt' small
    rw [zero] at number
    exact Nat.ne_of_lt positive number
  refine
    { cores := word16 (by omega) (by omega)
      vtcmSize := word32 (by omega) (by omega)
      l2tcmSize := word32 (by omega) (by omega)
      image := ?_ }
  show p.image.length < 2 ^ 32
  rw [planned.length_image]
  decide

/-- The document of a plan is written, unless its threads start at address 0. -/
theorem exists_writeMetadata (planned : Planned c p bufs) {entryPoint constants : UInt64}
    (small : constants.toNat < 2 ^ 32) (nonzero : entryPoint ≠ 0) :
    ∃ doc, c.writeMetadata p entryPoint constants = .ok doc := by
  obtain ⟨doc, finished⟩ := Draft.exists_finish_iff.mpr (planned.complete entryPoint constants)
  exact ⟨doc, planned.writeMetadata_eq_ok_iff.mpr ⟨small, nonzero, finished⟩⟩

/-- Nothing keeps the document of a plan from being written but threads that start at address 0. -/
theorem writeMetadata_eq_error (planned : Planned c p bufs) {entryPoint constants : UInt64}
    (small : constants.toNat < 2 ^ 32) {fault : PlanError}
    (h : c.writeMetadata p entryPoint constants = .error fault) :
    entryPoint = 0 ∧ fault = .artifact (.entry .threadEntry) := by
  by_cases zero : entryPoint = 0
  · rw [zero, planned.writeMetadata_zero small] at h
    exact ⟨zero, (Except.error.inj h).symm⟩
  · obtain ⟨doc, written⟩ := planned.exists_writeMetadata small zero
    rw [written] at h
    cases h

end Planned

/-! ## Generating -/

/-- Behind a plan, the document is written for its constants. -/
theorem ProgramConfig.generateMetadata_of_plan {c : ProgramConfig} {p : ProgramPlan}
    (h : c.plan = .ok p) (entryPoint : UInt64) :
    c.generateMetadata entryPoint
      = c.writeMetadata p entryPoint (UInt64.ofNat p.descriptor.encodedSize) :=
  bind_of_ok (mapError_eq_ok.mpr h) _

/-- The constants descriptor that goes with a document. -/
def ConstantsDescriptor.ofMetadata (md : Metadata) : ConstantsDescriptor :=
  ⟨md.staticConstants.size, md.dynamicConstants.size, md.staticConstants.ecc,
    md.dynamicConstants.ecc⟩

/-- Behind a plan, the host's view is written, then the document. -/
theorem ProgramConfig.generate_of_plan {c : ProgramConfig} {p : ProgramPlan} (h : c.plan = .ok p)
    (entryPoint : UInt64) :
    c.generate entryPoint = (do
      let network ← NetworkDescriptor.ofConfig c
      let doc ← c.writeMetadata p entryPoint (UInt64.ofNat p.descriptor.encodedSize)
      return ⟨doc, p.descriptor, .ofMetadata doc.metadata, network⟩) := by
  rw [← p.descriptor.length_encode]
  exact bind_of_ok (mapError_eq_ok.mpr h) _

/-- All artifacts are generated if the host's view and the document can be written. -/
theorem ProgramConfig.generate_eq_ok_iff {c : ProgramConfig} {p : ProgramPlan} (h : c.plan = .ok p)
    {entryPoint : UInt64} {a : Artifacts} :
    c.generate entryPoint = .ok a ↔
      NetworkDescriptor.ofConfig c = .ok a.network ∧
      c.generateMetadata entryPoint = .ok a.metadata ∧
      a.program = p.descriptor ∧
      a.constants = .ofMetadata a.metadata.metadata := by
  rw [generateMetadata_of_plan h, generate_of_plan h]
  constructor
  · intro generated
    obtain ⟨network, host, generated⟩ := bind_eq_ok.mp generated
    obtain ⟨doc, written, generated⟩ := bind_eq_ok.mp generated
    cases generated
    exact ⟨mapError_eq_ok.mp host, written, rfl, rfl⟩
  · rintro ⟨host, written, program, constants⟩
    refine (bind_of_ok (mapError_eq_ok.mpr host) _).trans ?_
    refine (bind_of_ok written _).trans ?_
    rw [← program, ← constants]
    rfl

/-- Behind a plan, generating fails with the shape of an input, or else with the start of the
threads. -/
theorem ProgramConfig.generate_eq_error {c : ProgramConfig} {p : ProgramPlan} (h : c.plan = .ok p)
    {entryPoint : UInt64} {fault : PlanError} (failed : c.generate entryPoint = .error fault) :
    (entryPoint = 0 ∧ fault = .artifact (.entry .threadEntry)) ∨
      ∃ (i : Nat) (s : BufferSpec), c.inputs[i]? = some s ∧ s.allowPartial = true ∧
        s.dims.length ≠ 1 ∧ fault = .config (.buffer ⟨.input, i⟩ (.partialShape s.dims.length)) := by
  obtain ⟨bufs, planned⟩ := planned_of_plan h
  rw [generate_of_plan h] at failed
  cases described : NetworkDescriptor.ofConfig c with
  | error fault' =>
    rw [described] at failed
    cases failed
    obtain ⟨i, s, asked, partly, shape, rfl⟩ :=
      NetworkDescriptor.ofConfig_eq_error planned.threads planned.isSome_byteSize? described
    exact .inr ⟨i, s, asked, partly, shape, rfl⟩
  | ok network =>
    rw [described] at failed
    cases written : c.writeMetadata p entryPoint (UInt64.ofNat p.descriptor.encodedSize) with
    | error fault' =>
      rw [written] at failed
      cases failed
      exact .inl (planned.writeMetadata_eq_error planned.toNat_encodedSize_lt written)
    | ok doc =>
      rw [written] at failed
      cases failed

/-- Behind a plan, all artifacts are generated unless the threads start at address 0 or an input that may
be transferred in part has not one dimension. -/
theorem ProgramConfig.exists_generate {c : ProgramConfig} {p : ProgramPlan} (plan : c.plan = .ok p)
    {entryPoint : UInt64} (nonzero : entryPoint ≠ 0)
    (shapes : ∀ s ∈ c.inputs, s.allowPartial = true → s.dims.length = 1) :
    ∃ a, c.generate entryPoint = .ok a := by
  obtain ⟨bufs, planned⟩ := planned_of_plan plan
  obtain ⟨network, described⟩ :=
    (NetworkDescriptor.exists_ofConfig_iff planned.threads planned.isSome_byteSize?).mpr shapes
  obtain ⟨doc, written⟩ := planned.exists_writeMetadata planned.toNat_encodedSize_lt nonzero
  rw [← generateMetadata_of_plan plan] at written
  exact ⟨⟨doc, p.descriptor, .ofMetadata doc.metadata, network⟩,
    (generate_eq_ok_iff plan).mpr ⟨described, written, rfl, rfl⟩⟩

/-- What decides whether the artifacts of a configuration are generated. -/
structure ProgramConfig.Generation (c : ProgramConfig) (entryPoint : UInt64) : Prop where
  /-- The document is generated exactly if there is a plan and the threads start anywhere. -/
  metadata : (∃ doc, c.generateMetadata entryPoint = .ok doc) ↔
    (∃ p, c.plan = .ok p) ∧ entryPoint ≠ 0
  /-- All artifacts are generated exactly if the document is and every input that may be transferred
  in part has one dimension. -/
  all : (∃ a, c.generate entryPoint = .ok a) ↔
    (∃ doc, c.generateMetadata entryPoint = .ok doc) ∧
      ∀ s ∈ c.inputs, s.allowPartial = true → s.dims.length = 1
  /-- The document is the same both times, and so is its written form. -/
  same : ∀ a, c.generate entryPoint = .ok a → c.generateMetadata entryPoint = .ok a.metadata
  /-- If there is a plan, nothing keeps the document from being written but threads that start at
  address 0. -/
  metadataFault : ∀ p fault, c.plan = .ok p → c.generateMetadata entryPoint = .error fault →
    entryPoint = 0 ∧ fault = .artifact (.entry .threadEntry)
  /-- If there is a plan, nothing keeps the artifacts from being written but that and an input that
  may be transferred in part but has not one dimension. -/
  fault : ∀ p fault, c.plan = .ok p → c.generate entryPoint = .error fault →
    (entryPoint = 0 ∧ fault = .artifact (.entry .threadEntry)) ∨
      ∃ (i : Nat) (s : BufferSpec), c.inputs[i]? = some s ∧ s.allowPartial = true ∧
        s.dims.length ≠ 1 ∧ fault = .config (.buffer ⟨.input, i⟩ (.partialShape s.dims.length))

/-- Nothing is generated without a plan. -/
theorem ProgramConfig.exists_plan_of_generate {c : ProgramConfig} {entryPoint : UInt64}
    {a : Artifacts} (h : c.generate entryPoint = .ok a) : ∃ p, c.plan = .ok p := by
  obtain ⟨p, plan, -⟩ := bind_eq_ok.mp h
  exact ⟨p, mapError_eq_ok.mp plan⟩

/-- The artifacts of a configuration are those of its plan. -/
theorem ProgramConfig.planned_of_generate {c : ProgramConfig} {entryPoint : UInt64} {a : Artifacts}
    (generated : c.generate entryPoint = .ok a) :
    ∃ p bufs, c.plan = .ok p ∧ Planned c p bufs ∧ NetworkDescriptor.ofConfig c = .ok a.network ∧
      c.writeMetadata p entryPoint (UInt64.ofNat p.descriptor.encodedSize) = .ok a.metadata ∧
      a.program = p.descriptor ∧ a.constants = .ofMetadata a.metadata.metadata := by
  obtain ⟨p, plan⟩ := exists_plan_of_generate generated
  obtain ⟨bufs, planned⟩ := planned_of_plan plan
  have parts := (generate_eq_ok_iff plan).mp generated
  rw [generateMetadata_of_plan plan] at parts
  exact ⟨p, bufs, plan, planned, parts⟩

/-- **When the artifacts of a configuration are generated.** -/
theorem ProgramConfig.generation (c : ProgramConfig) (entryPoint : UInt64) :
    c.Generation entryPoint := by
  have metadata : (∃ doc, c.generateMetadata entryPoint = .ok doc) ↔
      (∃ p, c.plan = .ok p) ∧ entryPoint ≠ 0 := by
    constructor
    · rintro ⟨doc, written⟩
      obtain ⟨p, plan, written⟩ := bind_eq_ok.mp written
      have plan := mapError_eq_ok.mp plan
      obtain ⟨bufs, planned⟩ := planned_of_plan plan
      exact ⟨⟨p, plan⟩, (planned.writeMetadata_eq_ok_iff.mp written).2.1⟩
    · rintro ⟨⟨p, plan⟩, nonzero⟩
      obtain ⟨bufs, planned⟩ := planned_of_plan plan
      rw [generateMetadata_of_plan plan]
      exact planned.exists_writeMetadata planned.toNat_encodedSize_lt nonzero
  have metadataFault (p : ProgramPlan) (fault : PlanError) (plan : c.plan = .ok p)
      (h : c.generateMetadata entryPoint = .error fault) :
      entryPoint = 0 ∧ fault = .artifact (.entry .threadEntry) := by
    obtain ⟨bufs, planned⟩ := planned_of_plan plan
    rw [generateMetadata_of_plan plan] at h
    exact planned.writeMetadata_eq_error planned.toNat_encodedSize_lt h
  refine
    { metadata
      all := ⟨?_, ?_⟩
      same := ?_
      metadataFault
      fault := ?_ }
  · rintro ⟨a, generated⟩
    obtain ⟨p, plan⟩ := exists_plan_of_generate generated
    obtain ⟨network, written, -, -⟩ := (generate_eq_ok_iff plan).mp generated
    obtain ⟨bufs, planned⟩ := planned_of_plan plan
    -- the host's view was written, and so the inputs have the shapes for it
    exact ⟨⟨_, written⟩, (NetworkDescriptor.exists_ofConfig_iff planned.threads
      planned.isSome_byteSize?).mp ⟨_, network⟩⟩
  · rintro ⟨⟨doc, written⟩, shapes⟩
    obtain ⟨⟨p, plan⟩, nonzero⟩ := metadata.mp ⟨doc, written⟩
    exact exists_generate plan nonzero shapes
  · intro a generated
    obtain ⟨p, plan⟩ := exists_plan_of_generate generated
    exact ((generate_eq_ok_iff plan).mp generated).2.1
  · intro p fault plan failed
    exact generate_eq_error plan failed

/-- All artifacts of the small configuration are generated, unless its threads start at address 0. -/
theorem ProgramConfig.generation_small :
    (∃ a, small.generate 0x1000 = .ok a ∧ small.generateMetadata 0x1000 = .ok a.metadata) ∧
    ¬∃ doc, small.generateMetadata 0 = .ok doc := by
  have plan : ∃ p, small.plan = .ok p := exists_of_isOk (by decide +kernel)
  have start := generation small 0x1000
  have shapes : ∀ s ∈ small.inputs, s.allowPartial = true → s.dims.length = 1 := by decide
  refine ⟨?_, ?_⟩
  · obtain ⟨a, generated⟩ := start.all.mpr ⟨start.metadata.mpr ⟨plan, by decide⟩, shapes⟩
    exact ⟨a, generated, start.same a generated⟩
  · intro written
    exact ((generation small 0).metadata.mp written).2 rfl

end ComputePlanner
