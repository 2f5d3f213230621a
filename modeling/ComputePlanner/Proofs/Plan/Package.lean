import ComputePlanner.Command.Run
import ComputePlanner.Proofs.Container.Building
import ComputePlanner.Proofs.Container.Writing
import ComputePlanner.Proofs.Descriptor.Loader
import ComputePlanner.Proofs.Metadata.Lengths
import ComputePlanner.Proofs.Plan.Agreement
import ComputePlanner.Proofs.Plan.Generation
import ComputePlanner.Proofs.Plan.Multicast

/-! # What is in a package
A package holds five images, and each is read by another reader: the runtime reads the document, the
loader the two descriptors, and the binary goes to the device as it is. Behind the artifacts of a
program, packaging cannot fail, and all readers find in the package what was generated. Two lengths
limit this: that of the network's name, which is written with 32 bits, and that of the whole package,
which memory has to hold in one piece.

Main definition: **`ProgramConfig.Packaged`**. Main statement:
**`ProgramConfig.packaged_of_generate`**; what lies beyond the limits is
**`ProgramConfig.misread_of_generate_longNamed`**. -/

namespace ComputePlanner

/-! ## The document is read back -/

/-- A buffer's transfer has at most two semaphore operations: it waits, and the last of its kind
resets. -/
theorem Handshake.length_semaphoreOps_le (h : Handshake) (b : Buffer) :
    (h.semaphoreOps b).length ≤ 2 := by
  have both (wait reset : SemaphoreOp) (last : Prop) [Decidable last] :
      (wait :: if last then [reset] else []).length ≤ 2 := by
    by_cases is : last
    · rw [if_pos is]
      exact Nat.le_refl 2
    · rw [if_neg is]
      exact Nat.le_succ 1
  rw [semaphoreOps]
  cases b.role with
  | input => exact both ..
  | output => exact both ..
  | internal => exact Nat.zero_le 2

namespace Planned

variable {c : ProgramConfig} {p : ProgramPlan} {bufs : BufferSet}

/-- There are at most as many groups as doorbells, since each of them is that of a buffer. -/
theorem length_groups_le (planned : Planned c p bufs) :
    p.router.groups.toList.length ≤ firmwareSlots := by
  have doorbells := planned.doorbells
  have grouped : (groupsOf p.buffers).length ≤ p.buffers.length := List.length_filterMap_le ..
  rw [planned.buffers, List.length_append, List.length_singleton] at grouped
  rw [planned.router, List.toList_toArray, planned.buffers]
  exact grouped.trans doorbells

/-- **The document of a plan is small**, since its lists count cores, doorbells and threads. -/
theorem small_completed (planned : Planned c p bufs) (entryPoint constants : UInt64)
    (named : (Utf8.encode c.name).length < 2 ^ 32) :
    (p.draft c entryPoint constants).completed.Small := by
  have cores := planned.cores_bounds.2
  have doorbells := planned.doorbells
  have groups := planned.length_groups_le
  have image : p.image.length = 1168 := planned.length_image
  rw [maxCores] at cores
  rw [firmwareSlots] at doorbells groups
  refine
    { name := ?_
      image := image.trans_lt (by decide)
      semaphores := (by decide : 2 ≤ 2 ^ 16)
      regions := (length_nonZeroRegions_le p.image).trans (image ▸ by decide)
      coreTables := ?_
      coreTable := ?_
      hostTable := ?_
      transfers := ?_
      transfer := ?_
      threads := ?_
      mappings := (by decide : 1 ≤ 2 ^ 16)
      ports := (by decide : 2 ≤ 2 ^ 16)
      requiredFields := ?_
      context := (by decide +kernel : (Value.record defaultContext.toRecord).data.length < 2 ^ 32) }
  · show (Utf8.encode (if c.name = "" then Draft.defaultName else c.name)).length < 2 ^ 32
    split
    · decide +kernel
    · exact named
  · show p.router.coreTables.length ≤ 2 ^ 6
    rw [Router.length_coreTables, planned.router_cores]
    omega
  · intro t mem
    obtain ⟨core, -, rfl⟩ := List.mem_map.mp mem
    rw [Router.coreTable, List.length_cons, List.length_map]
    omega
  · show p.router.hostTable.length ≤ 2 ^ 16
    have visible := List.length_filter_le (·.hostVisible) p.router.groups.toList
    rw [Router.hostTable, List.length_cons, List.length_map]
    omega
  · show p.transfers.toList.length ≤ 2 ^ 16
    rw [planned.length_transfers]
    rw [BufferSet.all, List.length_append] at doorbells
    omega
  · intro t mem
    obtain ⟨i, b, group, -, rfl⟩ := planned.exists_of_mem_transfers mem
    exact ⟨(p.handshake.length_semaphoreOps_le b).trans (by decide), (by decide : 1 ≤ 2 ^ 4)⟩
  · show (p.threadList entryPoint).length ≤ 2 ^ 16
    obtain ⟨total, matrices⟩ := ProgramConfig.bounds_of_threadPlan planned.threads
    rw [p.length_threadList entryPoint matrices]
    exact total.trans (by decide)
  · have required : (p.draft c entryPoint constants).completed.requiredFields
        = [Requirement.requiredFields, Requirement.contextContract, Requirement.networkName] := by
      refine (p.sound_draft c entryPoint constants).requiredFields_described.trans ?_
      exact List.filter_eq_self.mpr fun _ _ => decide_eq_true List.not_mem_nil
    rw [required]
    decide +kernel

/-- **A written document is read back.** -/
theorem readMetadata_bytes (planned : Planned c p bufs) {entryPoint constants : UInt64}
    {doc : Document} (written : c.writeMetadata p entryPoint constants = .ok doc)
    (named : (Utf8.encode c.name).length < 2 ^ 32) :
    readMetadata doc.bytes = .ok doc.metadata := by
  obtain rfl := planned.eq_of_writeMetadata written
  have sound := p.sound_draft c entryPoint constants
  have small := planned.small_completed entryPoint constants named
  exact (sound.readMetadata_completed small.length_field_lt).1

/-- Its name is the one that was configured, unless that is empty. -/
theorem name_of_writeMetadata (planned : Planned c p bufs) {entryPoint constants : UInt64}
    {doc : Document} (written : c.writeMetadata p entryPoint constants = .ok doc) :
    doc.metadata.name = if c.name = "" then Draft.defaultName else c.name := by
  obtain rfl := planned.eq_of_writeMetadata written
  rfl

/-- So it is read back only if 32 bits hold the length of the name. -/
theorem readMetadata_bytes_iff (planned : Planned c p bufs) {entryPoint constants : UInt64}
    {doc : Document} (written : c.writeMetadata p entryPoint constants = .ok doc) :
    readMetadata doc.bytes = .ok doc.metadata ↔ (Utf8.encode c.name).length < 2 ^ 32 := by
  refine ⟨fun read => ?_, planned.readMetadata_bytes written⟩
  have short := length_name_lt_of_readMetadata read
  rw [planned.name_of_writeMetadata written] at short
  by_cases empty : c.name = ""
  · rw [empty]
    decide
  · rwa [if_neg empty] at short

/-- Its written form is far shorter than 64 bits can say. -/
theorem length_bytes_lt (planned : Planned c p bufs) {entryPoint constants : UInt64}
    {doc : Document} (written : c.writeMetadata p entryPoint constants = .ok doc)
    (named : (Utf8.encode c.name).length < 2 ^ 32) : doc.bytes.length < 2 ^ 41 := by
  obtain rfl := planned.eq_of_writeMetadata written
  have small := planned.small_completed entryPoint constants named
  have record := Metadata.length_encode_lt small.length_field_lt
  have front : (terminator ++ metadataMagic).length = 8 := rfl
  dsimp only
  rw [Draft.payload, List.length_append, front]
  omega

/-- It does not look like a container. -/
theorem not_magic_bytes (planned : Planned c p bufs) {entryPoint constants : UInt64}
    {doc : Document} (written : c.writeMetadata p entryPoint constants = .ok doc) :
    Container.magic.isPrefixOf doc.bytes = false := by
  obtain rfl := planned.eq_of_writeMetadata written
  -- the terminator in front already differs
  rfl

end Planned

/-! ## Packaging -/

/-- The images of a package, in the order of their names. -/
def Artifacts.images (a : Artifacts) (binary : Bytes) : List Image :=
  [⟨Image.constantsName, UInt64.ofNat a.constantsData.length, a.constantsData⟩,
    ⟨Image.constantsSizesName, 0, a.constants.encode⟩,
    ⟨Image.metadataName, 0, a.metadata.bytes⟩,
    ⟨Image.binaryName, 0, binary⟩,
    ⟨Image.networkName, 0, a.network.encode⟩]

/-- The names of the images of a package. -/
def packageNames : List String :=
  [Image.constantsName, Image.constantsSizesName, Image.metadataName, Image.binaryName,
    Image.networkName]

/-- They are in the order of their bytes. -/
theorem pairwise_packageNames : packageNames.Pairwise nameBefore := by decide +kernel

/-- None of them occurs twice. -/
theorem nodup_packageNames : packageNames.Nodup := by decide +kernel

/-- All of them can stand in the table. -/
theorem nameFits_of_mem_packageNames :
    ∀ name ∈ packageNames, Container.NameFits name := by
  have valid : ∀ name ∈ packageNames, ContainerDraft.validName name = true := by decide +kernel
  exact fun name mem => ContainerDraft.nameFits_of_validName (valid name mem)

namespace Artifacts

/-- The constants are as long as the program descriptor says. -/
theorem length_constantsData (a : Artifacts) : a.constantsData.length = a.program.encodedSize :=
  a.program.length_encode

/-- The images have these names. -/
theorem map_name_images (a : Artifacts) (binary : Bytes) :
    (a.images binary).map (·.name) = packageNames := rfl

/-- **The images are added without a refusal**, each of them to its place. -/
theorem containerDraft_eq (a : Artifacts) (binary : Bytes) :
    a.containerDraft binary = .ok ⟨a.images binary⟩ := by
  have first : ContainerDraft.Between Image.binaryName [] [] := by decide +kernel
  have second : ContainerDraft.Between Image.metadataName [] [Image.binaryName] := by
    decide +kernel
  have third : ContainerDraft.Between Image.constantsName []
      [Image.metadataName, Image.binaryName] := by decide +kernel
  have fourth : ContainerDraft.Between Image.constantsSizesName [Image.constantsName]
      [Image.metadataName, Image.binaryName] := by decide +kernel
  have fifth : ContainerDraft.Between Image.networkName
      [Image.constantsName, Image.constantsSizesName, Image.metadataName, Image.binaryName] [] := by
    decide +kernel
  rw [containerDraft]
  refine (bind_of_ok (ContainerDraft.add_of_between [] [] _ ?_) _).trans ?_
  · exact first
  refine (bind_of_ok (ContainerDraft.add_of_between [] [_] _ ?_) _).trans ?_
  · exact second
  refine (bind_of_ok (ContainerDraft.add_of_between [] [_, _] _ ?_) _).trans ?_
  · exact third
  refine (bind_of_ok (ContainerDraft.add_of_between [_] [_, _] _ ?_) _).trans ?_
  · exact fourth
  refine ContainerDraft.add_of_between [_, _, _, _] [] _ ?_
  exact fifth

/-- The container of the artifacts. -/
def container (a : Artifacts) (binary : Bytes) : Container := ⟨a.images binary⟩

/-- Each of its images is found under its name. -/
theorem image?_container {a : Artifacts} {binary : Bytes} {i : Nat} {image : Image}
    (there : (a.images binary)[i]? = some image) :
    (a.container binary).image? image.name = some image :=
  Container.image?_of_mem nodup_packageNames (List.mem_of_getElem? there)

/-- A loader finds what it needs. -/
theorem validate_container (a : Artifacts) (binary : Bytes) :
    (a.container binary).validate = .ok () := by
  have there {name : String} (mem : name ∈ packageNames) : (a.container binary).has name = true :=
    (Container.has_iff _ name).mpr mem
  refine Container.validate_eq_ok_iff.mpr ⟨(by decide : 2 ≤ 5), ?_⟩
  refine Container.missing_eq_nil_iff.mpr ⟨there ?_, there ?_, iff_of_true (there ?_) (there ?_)⟩
  all_goals decide +kernel

/-- The names of the images fit the table. -/
theorem nameFits_container (a : Artifacts) (binary : Bytes) :
    ∀ image ∈ (a.container binary).images, Container.NameFits image.name := by
  intro image mem
  apply nameFits_of_mem_packageNames
  rw [← a.map_name_images binary]
  exact List.mem_map_of_mem mem

/-- **What is written is read back**, if 64 bits hold its length. -/
theorem decode_container {a : Artifacts} {binary : Bytes}
    (small : (a.container binary).encode.length < 2 ^ 64) :
    Container.decode (a.container binary).encode = .ok (a.container binary) :=
  Container.decode_encode (a.nameFits_container binary) (by decide : 5 < 2 ^ 32) small

/-- The written form is about as long as the artifacts and the binary together. -/
theorem length_encode_container_le (a : Artifacts) (binary : Bytes) :
    (a.container binary).encode.length ≤ a.constantsData.length + a.metadata.bytes.length
      + binary.length + a.network.encode.length + 552 := by
  have padding (n : Nat) : Container.padded n ≤ n + 7 := Nat.div_mul_le_self ..
  have constants := padding a.constantsData.length
  have metadata := padding a.metadata.bytes.length
  have input := padding binary.length
  have network := padding a.network.encode.length
  have sizes : Container.padded a.constants.encode.length = 24 := by
    rw [ConstantsDescriptor.length_encode]
    rfl
  have start : Container.dataStart 5 = 456 := rfl
  rw [Container.length_encode (a.nameFits_container binary), container, images]
  simp only [List.length_cons, List.length_nil, List.map_cons, List.map_nil, List.sum_cons,
    List.sum_nil, Nat.zero_add, Nat.reduceAdd, start, sizes]
  omega

/-- The binary is a part of it. -/
theorem length_binary_le (a : Artifacts) (binary : Bytes) :
    binary.length + 456 ≤ (a.container binary).encode.length := by
  have start : Container.dataStart 5 = 456 := rfl
  have unpadded := Container.le_padded binary.length
  rw [Container.length_encode (a.nameFits_container binary), container, images]
  simp only [List.length_cons, List.length_nil, List.map_cons, List.map_nil, List.sum_cons,
    Nat.zero_add, Nat.reduceAdd, start]
  omega

end Artifacts

/-! ## Files -/

/-- The document in a file with a container is that of the image. -/
theorem metadataIn_of_decode {buf : Bytes} {container : Container} {image : Image} {md : Metadata}
    (decoded : Container.decode buf = .ok container)
    (found : container.image? Image.metadataName = some image)
    (read : readMetadata image.data = .ok md) (path : String) :
    metadataIn path (.ok buf) = .ok md := by
  refine (bind_of_ok (a := buf) rfl _).trans ?_
  rw [if_pos (Container.magic_of_decode decoded)]
  refine (bind_of_ok (mapError_eq_ok.mpr decoded) _).trans ?_
  rw [found]
  exact mapError_eq_ok.mpr read

/-- The document in a file that is no container is the file's. -/
theorem metadataIn_of_readMetadata {buf : Bytes} {md : Metadata}
    (other : Container.magic.isPrefixOf buf = false) (read : readMetadata buf = .ok md)
    (path : String) : metadataIn path (.ok buf) = .ok md := by
  refine (bind_of_ok (a := buf) rfl _).trans ?_
  rw [other]
  exact mapError_eq_ok.mpr read

namespace ProgramConfig

variable {c : ProgramConfig} {entryPoint : UInt64} {a : Artifacts}

/-- Behind the artifacts, packaging cannot fail. -/
theorem packageAt_of_generate (generated : c.generate entryPoint = .ok a) (binary : Bytes) :
    c.packageAt entryPoint binary = .ok (a.container binary) := by
  refine (bind_of_ok generated _).trans ?_
  refine (bind_of_ok (mapError_eq_ok.mpr (a.containerDraft_eq binary)) _).trans ?_
  exact bind_of_ok (mapError_eq_ok.mpr (a.validate_container binary)) _

/-- Behind a plan, the generated document is read back exactly if 32 bits hold the length of the name. -/
theorem readMetadata_of_generate_iff (generated : c.generate entryPoint = .ok a) :
    readMetadata a.metadata.bytes = .ok a.metadata.metadata ↔ (Utf8.encode c.name).length < 2 ^ 32 := by
  obtain ⟨p, bufs, -, planned, -, written, -, -⟩ := planned_of_generate generated
  exact planned.readMetadata_bytes_iff written

/-- The document is found in the package. -/
theorem image?_metadata (a : Artifacts) (binary : Bytes) :
    (a.container binary).image? Image.metadataName
      = some ⟨Image.metadataName, 0, a.metadata.bytes⟩ :=
  Artifacts.image?_container (i := 2) rfl

/-- A plan does not depend on the name, and so the small configuration is generated under every name. -/
theorem exists_generate_small (name : String) :
    ∃ a, ({ small with name } : ProgramConfig).generate 0x1000 = .ok a := by
  have ready : ∃ p, small.plan = .ok p := exists_of_isOk (by decide +kernel)
  have shapes : ∀ s ∈ small.inputs, s.allowPartial = true → s.dims.length = 1 := by decide
  obtain ⟨p, plan⟩ := ready
  have renamed : ({ small with name } : ProgramConfig).plan = .ok p := plan
  exact exists_generate renamed (by decide) shapes

/-- What readers find in a package, given the artifacts and the binary that it was made of. A name that
is too long for its length to be written is not read back, and a container is not written that is too
long for memory. -/
structure Packaged (c : ProgramConfig) (a : Artifacts) (binary : Bytes) (container : Container) :
    Prop where
  /-- The images are those of the artifacts and the binary, in the order of their names. -/
  images : container.images =
    [⟨Image.constantsName, UInt64.ofNat a.constantsData.length, a.constantsData⟩,
      ⟨Image.constantsSizesName, 0, a.constants.encode⟩,
      ⟨Image.metadataName, 0, a.metadata.bytes⟩,
      ⟨Image.binaryName, 0, binary⟩,
      ⟨Image.networkName, 0, a.network.encode⟩]
  ordered : container.images.Pairwise fun image other => nameBefore image.name other.name
  /-- The container is written exactly if memory holds it. -/
  written : container.write?
    = if Container.memoryLimit ≤ container.encode.length then none else some container.encode
  /-- It is read back. -/
  read : container.encode.length < 2 ^ 64 →
    Container.decode container.encode = .ok container
  /-- The runtime reads the document exactly if 32 bits hold the length of the name. -/
  metadata : ∃ image, container.image? Image.metadataName = some image ∧
    (readMetadata image.data = .ok a.metadata.metadata ↔ (Utf8.encode c.name).length < 2 ^ 32)
  /-- The loader reads the plan's program descriptor, and the constants behind it are loaded where it
  ends. -/
  constants : ∃ p image, c.plan = .ok p ∧ container.image? Image.constantsName = some image ∧
    ProgramDescriptor.decode image.data = .ok p.descriptor ∧
    image.offset.toNat = image.data.length
  /-- The loader reads the sizes that the document has. -/
  sizes : ∃ image, container.image? Image.constantsSizesName = some image ∧
    ConstantsDescriptor.decode image.data = .ok
      { staticSize := a.metadata.metadata.staticConstants.size
        dynamicSize := a.metadata.metadata.dynamicConstants.size
        staticEcc := a.metadata.metadata.staticConstants.ecc
        dynamicEcc := a.metadata.metadata.dynamicConstants.ecc }
  /-- The binary is there as it was. -/
  binary : ∃ image, container.image? Image.binaryName = some image ∧ image.data = binary
  /-- The document is found in a file with the container and in a file with the document alone. -/
  dump : (Utf8.encode c.name).length < 2 ^ 32 →
    container.encode.length < 2 ^ 64 → ∀ path,
      metadataIn path (.ok container.encode) = .ok a.metadata.metadata ∧
      metadataIn path (.ok a.metadata.bytes) = .ok a.metadata.metadata

/-- **Every program whose artifacts are generated can be packaged with every binary**, and the readers
of the package find in it what was generated. -/
theorem packaged_of_generate (generated : c.generate entryPoint = .ok a) (binary : Bytes) :
    ∃ container, c.packageAt entryPoint binary = .ok container ∧
      c.Packaged a binary container := by
  obtain ⟨p, bufs, plan, planned, -, written, program, constants⟩ := planned_of_generate generated
  refine ⟨a.container binary, packageAt_of_generate generated binary, ?_⟩
  have read := readMetadata_of_generate_iff generated
  have found := image?_metadata a binary
  refine
    { images := rfl
      ordered := List.pairwise_map.mp pairwise_packageNames
      written := Container.write?_eq (a.nameFits_container binary)
      read := Artifacts.decode_container
      metadata := ⟨_, found, read⟩
      constants := ⟨p, _, plan, Artifacts.image?_container (i := 0) rfl, ?_, ?_⟩
      sizes := ⟨_, Artifacts.image?_container (i := 1) rfl, ?_⟩
      binary := ⟨_, Artifacts.image?_container (i := 3) rfl, rfl⟩
      dump := ?_ }
  · rw [Artifacts.constantsData, program]
    apply ProgramDescriptor.decode_encode
    rw [planned.length_entries]
    exact planned.doorbells.trans_lt (by decide)
  · rw [a.length_constantsData, program]
    exact planned.toNat_encodedSize
  · rw [constants]
    exact ConstantsDescriptor.decode_encode _
  · intro named small path
    exact ⟨metadataIn_of_decode (Artifacts.decode_container small) found (read.mpr named) path,
      metadataIn_of_readMetadata (planned.not_magic_bytes written) (read.mpr named) path⟩

/-- The small configuration is packaged with a binary of one byte, and its readers find in the package
what was generated: neither its name nor its container is too long. -/
theorem packaged_of_generate_small :
    ∃ a container, small.generate 0x1000 = .ok a ∧
      small.packageAt 0x1000 [0x7F] = .ok container ∧ small.Packaged a [0x7F] container ∧
      (Utf8.encode small.name).length < 2 ^ 32 ∧ container.encode.length < 2 ^ 64 := by
  have named : (Utf8.encode small.name).length < 2 ^ 32 := by decide +kernel
  have described : (NetworkDescriptor.ofConfig small).toOption.all (fun d => decide
      (((d.toJson.tokens.flatMap Json.Token.chars).flatMap Utf8.encodeChar).length < 2 ^ 20))
        = true := by decide +kernel
  obtain ⟨a, generated⟩ : ∃ a, small.generate 0x1000 = .ok a := exists_generate_small small.name
  obtain ⟨container, packaged, holds⟩ := packaged_of_generate generated [0x7F]
  refine ⟨a, container, generated, packaged, holds, named, ?_⟩
  -- the parts of the package are short, the host's view because it was rendered
  obtain ⟨p, bufs, -, planned, network, written, program, -⟩ := planned_of_generate generated
  have metadata := planned.length_bytes_lt written named
  have constants : a.constantsData.length ≤ 11280 := by
    rw [a.length_constantsData, program]
    exact planned.encodedSize_le
  have host : a.network.encode.length < 2 ^ 20 := by
    rw [network] at described
    rw [NetworkDescriptor.encode, NetworkDescriptor.render, Json.render, Utf8.encode,
      String.toList_ofList]
    exact of_decide_eq_true described
  have total := a.length_encode_container_le [0x7F]
  obtain rfl : a.container [0x7F] = container :=
    Except.ok.inj ((packageAt_of_generate generated _).symm.trans packaged)
  rw [List.length_singleton] at total
  omega

/-- The small configuration under a name of 4 GiB. -/
def longNamed : ProgramConfig := { small with name := String.ofList (List.replicate (2 ^ 32) 'a') }

/-- **A name of 4 GiB is packaged and not read back**, for its length is written as 0. And with a binary
as long as one can be, a package is made that is not written. -/
theorem misread_of_generate_longNamed :
    (∃ a container image, longNamed.generate 0x1000 = .ok a ∧
      longNamed.packageAt 0x1000 [0x7F] = .ok container ∧
      container.image? Image.metadataName = some image ∧
      readMetadata image.data ≠ .ok a.metadata.metadata) ∧
    ∃ a container, small.generate 0x1000 = .ok a ∧
      small.packageAt 0x1000 (List.replicate (2 ^ 63 - 1) 0) = .ok container ∧
      container.write? = none := by
  constructor
  · obtain ⟨a, generated⟩ : ∃ a, longNamed.generate 0x1000 = .ok a := exists_generate_small _
    have length : (Utf8.encode longNamed.name).length = 2 ^ 32 := by
      refine (Utf8.length_encode_ofList fun c mem => ?_).trans List.length_replicate
      rw [List.eq_of_mem_replicate mem]
      decide
    refine ⟨a, _, _, generated, packageAt_of_generate generated _, image?_metadata a _, ?_⟩
    intro read
    have short := (readMetadata_of_generate_iff generated).mp read
    rw [length] at short
    exact Nat.lt_irrefl _ short
  · obtain ⟨a, generated⟩ : ∃ a, small.generate 0x1000 = .ok a := exists_generate_small small.name
    refine ⟨a, _, generated, packageAt_of_generate generated _, ?_⟩
    have long := a.length_binary_le (List.replicate (2 ^ 63 - 1) 0)
    rw [List.length_replicate] at long
    rw [Container.write?_eq_none_iff (a.nameFits_container _), Container.memoryLimit]
    omega

end ProgramConfig

end ComputePlanner
