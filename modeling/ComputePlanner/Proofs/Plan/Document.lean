import ComputePlanner.Proofs.Metadata.Finishing
import ComputePlanner.Proofs.Plan.Acceptance
import ComputePlanner.Proofs.Plan.InitImage

/-! # The document of a plan
The metadata document of a plan is written by several runs of edits. **`ProgramPlan.document`** is
what they write, field by field. None of the edits is refused, except for threads that start at
address 0 (**`Planned.writeMetadata_eq_ok_iff`**, **`Planned.writeMetadata_zero`**), so the document is
known (**`Planned.metadata_of_writeMetadata`**). -/

namespace ComputePlanner

namespace ProgramPlan

/-- The threads of a plan, each starting at `entryPoint`: vector threads, then matrix threads. -/
def threadList (p : ProgramPlan) (entryPoint : UInt64) : List Thread :=
  (List.replicate p.threads.vector vectorUnit ++ List.replicate p.threads.matrix matrixUnit).map
    fun units => ⟨entryPoint, units⟩

/-- The document of a plan, with an init image. -/
def document (p : ProgramPlan) (c : ProgramConfig) (entryPoint constants : UInt64)
    (image : Bytes) : Metadata :=
  { Metadata.empty with
    major := metadataMajor
    minor := metadataMinor
    contextMajor := contextMajor
    hardwareMajor := UInt16.ofNat c.hardwareMajor.toNat
    hardwareMinor := UInt16.ofNat c.hardwareMinor.toNat
    exitDoorbell := UInt64.ofNat (slotOffset exitSlot)
    name := c.name
    cores := UInt16.ofNat p.router.cores
    vtcmSize := UInt32.ofNat p.resources.vtcm
    l2tcmSize := UInt32.ofNat p.resources.l2tcm
    semaphoreCount := semaphoreCount
    semaphoreInit := p.handshake.semaphoreInit
    initImage := image
    staticDdr := ⟨UInt64.ofNat p.resources.ddr, false⟩
    staticConstants := ⟨constants, false⟩
    singleVtcmPage := c.singleVtcmPage
    coreTables := p.router.coreTables
    hostTable := p.router.hostTable
    transfers := p.transfers.toList
    threads := p.threadList entryPoint
    constantMappings := [⟨allCoresMask p.router.cores, 0, UInt32.ofNat constants.toNat⟩]
    ports := [⟨inputPort, .user⟩, ⟨outputPort, .user⟩]
    heapSize := c.heapSize }

/-- The semaphores are declared and get their first values. -/
theorem applyAll_semaphoreEdits (p : ProgramPlan) (d : Draft) :
    d.applyAll p.semaphoreEdits = .ok (d.edit fun md =>
      { md with semaphoreCount := semaphoreCount, semaphoreInit := p.handshake.semaphoreInit }) :=
  rfl

/-- The draft of a plan before the constants are mapped and the threads are added. -/
def unthreaded (p : ProgramPlan) (c : ProgramConfig) (constants : UInt64) : Draft where
  document := { p.document c 0 constants p.image with constantMappings := [], threads := [] }
  contextChosen := false

/-- The draft of a plan before it is finished. -/
def draft (p : ProgramPlan) (c : ProgramConfig) (entryPoint constants : UInt64) : Draft where
  document := p.document c entryPoint constants p.image
  contextChosen := false

/-- It is sound: nothing is required before it is finished. -/
theorem sound_draft (p : ProgramPlan) (c : ProgramConfig) (entryPoint constants : UInt64) :
    (p.draft c entryPoint constants).Sound where
  major := rfl
  rawLength := rfl
  known := nofun
  context := nofun

/-- Every thread of a plan starts at the entry point. -/
theorem entry_of_mem_threadList {p : ProgramPlan} {entryPoint : UInt64} {t : Thread}
    (mem : t ∈ p.threadList entryPoint) : t.entry = entryPoint := by
  obtain ⟨units, -, rfl⟩ := List.mem_map.mp mem
  rfl

/-- The constants are mapped, since nothing else is. -/
theorem applyAll_threadEdits (p : ProgramPlan) (c : ProgramConfig) (entryPoint constants : UInt64) :
    (p.unthreaded c constants).applyAll
        (.constantMapping ⟨allCoresMask p.router.cores, 0, UInt32.ofNat constants.toNat⟩
          :: p.threadEdits entryPoint)
      = ((p.draft c entryPoint constants).edit fun md => { md with threads := [] }).applyAll
        ((p.threadList entryPoint).map .thread) := by
  have edits : p.threadEdits entryPoint = (p.threadList entryPoint).map .thread :=
    (List.map_map ..).symm
  rw [Draft.applyAll_cons, edits]
  rfl

/-- The multicast tables are written into a document without any. -/
theorem applyAll_tableEdits (p : ProgramPlan) {d : Draft}
    (clear : d.document.coreTables = List.replicate p.router.cores [])
    (few : p.router.cores ≤ 2 ^ 16) :
    d.applyAll p.tableEdits = .ok (d.edit fun md =>
      { md with
        coreTables := p.router.coreTables
        hostTable := md.hostTable ++ p.router.hostTable }) := by
  have count : p.router.coreTables.length = p.router.cores := by
    rw [Router.coreTables, List.length_map, List.length_range]
  have tables := Draft.applyAll_coreTables (d := d) [] p.router.coreTables
    (by rw [clear, count]; rfl) (by rw [count, List.length_nil]; omega)
  simp only [List.length_nil, Nat.zero_add, List.nil_append] at tables
  rw [tableEdits, Draft.applyAll_append_of_ok tables, Draft.applyAll_hostEntry]
  rfl

end ProgramPlan

/-- A buffer's transfer uses no semaphore but the two of the handshake. -/
theorem Handshake.semaphore_of_mem {h : Handshake} {b : Buffer} {op : SemaphoreOp}
    (mem : op ∈ h.semaphoreOps b) :
    op.semaphore = inputSemaphore ∨ op.semaphore = outputSemaphore := by
  have either {wait arm : SemaphoreOp} {last : Prop} [Decidable last]
      (mem : op ∈ wait :: if last then [arm] else []) : op = wait ∨ op = arm := by
    rcases List.mem_cons.mp mem with rfl | mem
    · exact .inl rfl
    · by_cases is : last
      · rw [if_pos is] at mem
        exact .inr (List.mem_singleton.mp mem)
      · rw [if_neg is] at mem
        exact absurd mem List.not_mem_nil
  rw [semaphoreOps] at mem
  cases role : b.role with
  | input =>
    rw [role] at mem
    rcases either mem with rfl | rfl
    · exact .inl rfl
    · exact .inl rfl
  | output =>
    rw [role] at mem
    rcases either mem with rfl | rfl
    · exact .inr rfl
    · exact .inr rfl
  | internal =>
    rw [role] at mem
    exact absurd mem List.not_mem_nil

namespace Planned

variable {c : ProgramConfig} {p : ProgramPlan} {bufs : BufferSet}

/-- Transfers use the two semaphores that are declared. -/
theorem semaphore_lt (planned : Planned c p bufs) :
    ∀ t ∈ p.transfers.toList, ∀ op ∈ t.semaphores, op.semaphore < semaphoreCount := by
  intro t mem op used
  obtain ⟨i, b, group, -, rfl⟩ := planned.exists_of_mem_transfers mem
  rcases Handshake.semaphore_of_mem used with semaphore | semaphore
  · rw [semaphore]
    decide
  · rw [semaphore]
    decide

/-- Transfers go to multicast groups or to memory that is allocated once. -/
theorem usesDynamicDdr_eq_false (planned : Planned c p bufs) :
    ∀ t ∈ p.transfers.toList, Draft.usesDynamicDdr t = false := by
  intro t mem
  obtain ⟨i, b, group, -, rfl⟩ := planned.exists_of_mem_transfers mem
  rw [Draft.usesDynamicDdr, Handshake.transferOf, AddressSpace.deviceSpace]
  cases b.space.isOnChip <;> rfl

/-- What the runtime is told before sizes: everything that has to do with communication. -/
theorem applyAll_communicationEdits (planned : Planned c p bufs) {d : Draft}
    (clear : d.document.coreTables = List.replicate p.router.cores [])
    (fresh : d.document.initImage = []) :
    d.applyAll p.communicationEdits = .ok (d.edit fun md =>
      { md with
        semaphoreCount := semaphoreCount
        semaphoreInit := p.handshake.semaphoreInit
        initImage := p.image
        ports := md.ports ++ [⟨inputPort, .user⟩, ⟨outputPort, .user⟩]
        exitDoorbell := UInt64.ofNat (slotOffset exitSlot)
        coreTables := p.router.coreTables
        hostTable := md.hostTable ++ p.router.hostTable
        transfers := md.transfers ++ p.transfers.toList }) := by
  -- cores are numbered in 16 bits
  have few : p.router.cores ≤ 2 ^ 16 := by
    have := planned.cores_bounds.2
    rw [planned.router, maxCores] at *
    dsimp only
    omega
  -- the two ports and the exit doorbell, which no document refuses
  have settings (d : Draft) (edits : List Edit) :
      d.applyAll ([.port ⟨inputPort, .user⟩, .port ⟨outputPort, .user⟩,
          .exitDoorbell (UInt64.ofNat (slotOffset exitSlot))] ++ edits)
        = (d.edit fun md =>
          { md with
            ports := md.ports ++ [⟨inputPort, .user⟩] ++ [⟨outputPort, .user⟩]
            exitDoorbell := UInt64.ofNat (slotOffset exitSlot) }).applyAll edits := rfl
  -- nothing so far has touched the tables, which are clear as they were
  have tables (d₁ : Draft) (edits : List Edit)
      (same : d₁.document.coreTables = d.document.coreTables) :
      d₁.applyAll (p.tableEdits ++ edits)
        = (d₁.edit fun md =>
          { md with
            coreTables := p.router.coreTables
            hostTable := md.hostTable ++ p.router.hostTable }).applyAll edits :=
    Draft.applyAll_append_of_ok (p.applyAll_tableEdits (same.trans clear) few) edits
  rw [ProgramPlan.communicationEdits, List.append_assoc, List.append_assoc, List.append_assoc,
    Draft.applyAll_append_of_ok (p.applyAll_semaphoreEdits d),
    Draft.applyAll_append_of_ok (planned.applyAll_imageEdits (by exact fresh)), settings, tables,
    Draft.applyAll_transfer _ planned.usesDynamicDdr_eq_false]
  · simp only [Draft.edit, List.append_assoc, List.singleton_append]
  · exact planned.semaphore_lt
  · rfl

/-! ## The document as a whole -/

/-- Everything up to the threads is written without a refusal. -/
theorem writeMetadata_eq (planned : Planned c p bufs) (entryPoint constants : UInt64) :
    c.writeMetadata p entryPoint constants = (do
      let mapped ← narrow32 .constantsSize constants.toNat
      let d ← (p.unthreaded c constants).applyAll
        (.constantMapping ⟨allCoresMask p.router.cores, 0, mapped⟩ :: p.threadEdits entryPoint)
      d.finish) := by
  obtain ⟨⟨major, minor⟩, -⟩ := c.checkTarget_eq_ok_iff.mp planned.target
  have cores := planned.cores_bounds.2
  have vtcm := planned.used_le (show AddressSpace.vtcm.capacity? = _ from rfl)
  have l2tcm := planned.used_le (show AddressSpace.l2tcm.capacity? = _ from rfl)
  rw [maxCores] at cores
  rw [mebibyte] at vtcm l2tcm
  have few : p.router.cores < 2 ^ 16 := by
    rw [planned.router]
    dsimp only
    omega
  have vtcmFits : p.resources.vtcm < 2 ^ 32 := Nat.lt_of_le_of_lt vtcm (by decide)
  have l2tcmFits : p.resources.l2tcm < 2 ^ 32 := Nat.lt_of_le_of_lt l2tcm (by decide)
  -- naming the network and setting its cores leaves the tables clear
  have clear : (((Draft.start (UInt16.ofNat c.hardwareMajor.toNat)
      (UInt16.ofNat c.hardwareMinor.toNat)).setName c.name).setCores
        (UInt16.ofNat p.router.cores)).document.coreTables = List.replicate p.router.cores [] :=
    congrArg (List.replicate · []) (UInt16.toNat_ofNat_of_lt' few)
  have communication := planned.applyAll_communicationEdits clear rfl
  rw [ProgramConfig.writeMetadata]
  refine (bind_of_ok (mapError_eq_ok.mpr ((narrow16_eq_ok_iff ..).mpr ⟨?_, rfl⟩)) _).trans ?_
  · rw [major]; decide
  refine (bind_of_ok (mapError_eq_ok.mpr ((narrow16_eq_ok_iff ..).mpr ⟨?_, rfl⟩)) _).trans ?_
  · rw [minor]; decide
  refine (bind_of_ok (mapError_eq_ok.mpr ((narrow16_eq_ok_iff ..).mpr ⟨few, rfl⟩)) _).trans ?_
  refine (bind_of_ok (mapError_eq_ok.mpr communication) _).trans ?_
  refine (bind_of_ok (mapError_eq_ok.mpr ((narrow32_eq_ok_iff ..).mpr ⟨vtcmFits, rfl⟩)) _).trans ?_
  refine (bind_of_ok (mapError_eq_ok.mpr ((narrow32_eq_ok_iff ..).mpr ⟨l2tcmFits, rfl⟩)) _).trans ?_
  refine (bind_of_ok (mapError_eq_ok.mpr rfl) _).trans ?_
  rfl

/-- A plan has threads. -/
theorem threadList_ne_nil (planned : Planned c p bufs) (entryPoint : UInt64) :
    p.threadList entryPoint ≠ [] := by
  obtain ⟨-, threads⟩ := (c.threadPlan_eq_ok_iff _).mp planned.threads
  -- the usual number of threads is not 0, and no other number is asked for by 0
  have positive : 0 < c.totalThreads := by
    rw [ProgramConfig.totalThreads]
    split
    · exact Nat.add_pos_left (by decide) _
    · next asked => exact Nat.pos_of_ne_zero fun zero => asked (UInt32.toNat_inj.mp zero)
  intro empty
  have lengths := congrArg List.length empty
  rw [ProgramPlan.threadList, List.length_map, List.length_append, List.length_replicate,
    List.length_replicate, ThreadPlan.vector, threads, List.length_nil] at lengths
  dsimp only at lengths
  omega

/-- **The document of a plan is written if it can be finished**, unless its threads start at
address 0 or 32 bits do not hold the length of its constants. -/
theorem writeMetadata_eq_ok_iff (planned : Planned c p bufs) {entryPoint constants : UInt64}
    {doc : Document} :
    c.writeMetadata p entryPoint constants = .ok doc ↔
      constants.toNat < 2 ^ 32 ∧ entryPoint ≠ 0 ∧
      (p.draft c entryPoint constants).finish = .ok doc := by
  -- the threads that are added are those of the document
  have threads {d : Draft} : (((p.draft c entryPoint constants).edit fun md =>
      { md with threads := [] }).applyAll ((p.threadList entryPoint).map .thread) = .ok d) ↔
        entryPoint ≠ 0 ∧ d = p.draft c entryPoint constants := by
    rw [Draft.applyAll_thread_eq_ok_iff]
    refine and_congr ⟨fun all zero => ?_, fun nonzero t mem => ?_⟩ Iff.rfl
    · obtain ⟨t, mem⟩ := List.exists_mem_of_ne_nil _ (planned.threadList_ne_nil entryPoint)
      exact all t mem ((ProgramPlan.entry_of_mem_threadList mem).trans zero)
    · rw [ProgramPlan.entry_of_mem_threadList mem]
      exact nonzero
  rw [planned.writeMetadata_eq]
  constructor
  · intro written
    obtain ⟨mapped, told, written⟩ := bind_eq_ok.mp written
    obtain ⟨d, added, written⟩ := bind_eq_ok.mp written
    obtain ⟨small, rfl⟩ := (narrow32_eq_ok_iff ..).mp (mapError_eq_ok.mp told)
    have added := mapError_eq_ok.mp added
    rw [p.applyAll_threadEdits] at added
    obtain ⟨nonzero, rfl⟩ := threads.mp added
    exact ⟨small, nonzero, mapError_eq_ok.mp written⟩
  · rintro ⟨small, nonzero, finished⟩
    have added := (p.applyAll_threadEdits c entryPoint constants).trans
      (threads.mpr ⟨nonzero, rfl⟩)
    refine (bind_of_ok (mapError_eq_ok.mpr ((narrow32_eq_ok_iff ..).mpr ⟨small, rfl⟩)) _).trans ?_
    refine (bind_of_ok (mapError_eq_ok.mpr added) _).trans ?_
    exact mapError_eq_ok.mpr finished

/-- Threads that start at address 0 are refused, and nothing else is. -/
theorem writeMetadata_zero (planned : Planned c p bufs) {constants : UInt64}
    (small : constants.toNat < 2 ^ 32) :
    c.writeMetadata p 0 constants = .error (.artifact (.entry .threadEntry)) := by
  have refused : (p.unthreaded c constants).applyAll
      (.constantMapping ⟨allCoresMask p.router.cores, 0, UInt32.ofNat constants.toNat⟩
        :: p.threadEdits 0) = .error (.entry .threadEntry) := by
    rw [p.applyAll_threadEdits]
    cases list : p.threadList 0 with
    | nil => exact absurd list (planned.threadList_ne_nil 0)
    | cons t ts =>
      have zero : t.entry = 0 := by
        apply ProgramPlan.entry_of_mem_threadList (p := p)
        rw [list]
        exact List.mem_cons_self
      rw [List.map_cons, Draft.applyAll_cons, Draft.apply, Draft.addThread, if_pos zero]
      rfl
  rw [planned.writeMetadata_eq]
  refine (bind_of_ok (mapError_eq_ok.mpr ((narrow32_eq_ok_iff ..).mpr ⟨small, rfl⟩)) _).trans ?_
  rw [refused]
  rfl

/-- What is written is what the draft is completed to. -/
theorem eq_of_writeMetadata (planned : Planned c p bufs) {entryPoint constants : UInt64}
    {doc : Document} (h : c.writeMetadata p entryPoint constants = .ok doc) :
    doc = ⟨(p.draft c entryPoint constants).completed,
      Draft.payload (p.draft c entryPoint constants).completed⟩ := by
  obtain ⟨-, -, finished⟩ := planned.writeMetadata_eq_ok_iff.mp h
  exact (Draft.finish_eq_ok_iff.mp finished).2

/-- **What is written is the document of the plan**, up to the fields that finishing derives. -/
theorem metadata_of_writeMetadata (planned : Planned c p bufs) {entryPoint constants : UInt64}
    {doc : Document} (h : c.writeMetadata p entryPoint constants = .ok doc) :
    ∃ (image : Bytes) (f : Draft.Derived),
      doc.metadata = f.into (p.document c entryPoint constants image) := by
  obtain rfl := planned.eq_of_writeMetadata h
  exact ⟨p.image, .ofDraft (p.draft c entryPoint constants), rfl⟩

end Planned

end ComputePlanner
