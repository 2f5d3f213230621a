import ComputePlanner.Descriptor.Network.Json
import ComputePlanner.Proofs.Descriptor.Network
import ComputePlanner.Proofs.Json.Fields

/-! # The network descriptor survives being written
Each part of the descriptor is restored from JSON, field by field, from the shapes of tensors up to the
whole (**`NetworkDescriptor.decode_encode`**). Only the scale of a step, which can be any number of 32
bits, has to be known to be restored; a configuration never asks for any other than 1. So every
descriptor of a configuration is read back: **`NetworkDescriptor.readsBack_of_ofConfig`**, which also
says which of the optional keys of a tensor are written. -/

namespace ComputePlanner

open Json Json.Fields

/-! ## Words and names -/

namespace Json

/-- Words of 32 bits are restored. -/
theorem restores_ofWord32 (v : UInt32) : Restores ofWord32 word32? v :=
  ⟨.number (wellFormed_toDigits false _), word32?_ofNat v⟩

/-- Words of 64 bits are restored. -/
theorem restores_ofWord64 (v : UInt64) : Restores ofWord64 word64? v :=
  ⟨.number (wellFormed_toDigits false _), word64?_ofNat v⟩

end Json

/-- Types of elements are restored by name. -/
theorem ElementType.restores (t : ElementType) :
    Restores (fun t => ofText t.name) (oneOf? table) t :=
  restores_oneOf (by cases t <;> decide)

/-- Layouts are restored by name. -/
theorem TensorLayout.restores (l : TensorLayout) :
    Restores (fun l => ofText l.name) (oneOf? table) l :=
  restores_oneOf (by cases l; decide)

/-- Kinds of steps are restored by name. -/
theorem TransformKind.restores (k : TransformKind) :
    Restores (fun k => ofText k.name) (oneOf? table) k :=
  restores_oneOf (by cases k; decide)

/-- Directions are restored by name. -/
theorem Direction.restores (d : Direction) : Restores (fun d => ofText d.name) (oneOf? table) d :=
  restores_oneOf (by cases d <;> decide)

/-! ## Parts of a descriptor -/

/-- Shapes are restored. -/
theorem TensorShape.restores (s : TensorShape) : Restores toJson ofJson? s := by
  have type := s.type.restores
  have dims := restores_ofList fun d (_ : d ∈ s.dims) => restores_ofWord64 d
  have layout := s.layout.restores
  constructor
  · exact wellFormed_ofFields (by simp [type.wellFormed, dims.wellFormed, layout.wellFormed])
  · have ordered : s.toJson.keys.Sublist fieldNames := .refl _
    rw [ofJson?, toJson, fields?_bind fieldNames (by decide) ordered, required_bind type,
      required_bind dims, required_bind layout]
    all_goals rfl

/-- Targets are restored. -/
theorem CopyTarget.restores (t : CopyTarget) : Restores toJson ofJson? t := by
  have direction := t.direction.restores
  have offset := restores_ofWord64 t.offset
  have buffer := restores_ofWord32 t.buffer
  constructor
  · exact wellFormed_ofFields
      (by simp [direction.wellFormed, offset.wellFormed, buffer.wellFormed])
  · have ordered : t.toJson.keys.Sublist fieldNames := .refl _
    rw [ofJson?, toJson, fields?_bind fieldNames (by decide) ordered, required_bind direction,
      required_bind offset, required_bind buffer]
    all_goals rfl

/-- Steps are restored if their scales are. -/
theorem Transform.restores {t : Transform} (scale : Restores ofSingle single? t.scale) :
    Restores toJson ofJson? t := by
  have kind := t.kind.restores
  have type := t.type.restores
  have offset := restores_ofInt t.offset
  have dims := restores_ofList fun d (_ : d ∈ t.dims) => restores_ofWord64 d
  have layout := t.layout.restores
  have target := t.target.restores
  constructor
  · exact wellFormed_ofFields (by simp [kind.wellFormed, type.wellFormed, scale.wellFormed,
      offset.wellFormed, dims.wellFormed, layout.wellFormed, target.wellFormed])
  · have ordered : t.toJson.keys.Sublist fieldNames := .refl _
    rw [ofJson?, toJson, fields?_bind fieldNames (by decide) ordered, required_bind kind,
      required_bind type, required_bind scale, required_bind offset, required_bind dims,
      required_bind layout, required_bind target]
    all_goals rfl

/-- Transfer buffers are restored. -/
theorem TransferBuffer.restores (b : TransferBuffer) : Restores toJson ofJson? b := by
  have size := restores_ofWord64 b.size
  have direction := b.direction.restores
  constructor
  · exact wellFormed_ofFields (by simp [size.wellFormed, direction.wellFormed])
  · have ordered : b.toJson.keys.Sublist fieldNames := .refl _
    rw [ofJson?, toJson, fields?_bind fieldNames (by decide) ordered, required_bind size,
      required_bind direction]
    all_goals rfl

namespace Tensor

/-- The fields that a tensor is written with. -/
def fields (t : Tensor) : List (String × Json) :=
  [("name", ofText t.name)] ++ optionalField "is_partial_allowed" Json.bool t.allowPartial
    ++ optionalField "align" ofWord64 t.align
    ++ [("io_initial", t.initial.toJson), ("io_transformed", t.transformed.toJson),
      ("transformseq", ofList Transform.toJson t.transforms)]

theorem toJson_eq (t : Tensor) : t.toJson = ofFields t.fields := rfl

/-- The keys that a tensor is written with, given which of the optional ones are. -/
def writtenKeys (allowPartial align : Bool) : List String :=
  ["name"] ++ (if allowPartial then ["is_partial_allowed"] else []) ++ (if align then ["align"] else [])
    ++ ["io_initial", "io_transformed", "transformseq"]

/-- They are fields of a tensor in order. -/
theorem writtenKeys_sublist : ∀ allowPartial align : Bool,
    (writtenKeys allowPartial align).Sublist fieldNames := by
  decide

section OptionalField

variable {α : Type} (name : String) (write : α → Json) (o : Option α)

/-- An optional field's key is written if its value is there. -/
theorem map_fst_optionalField :
    (optionalField name write o).map Prod.fst = if o.isSome then [name] else [] := by
  cases o <;> rfl

/-- A key is looked up in an optional field, and then in the fields behind it. -/
theorem lookup_optionalField_append (fields : List (String × Json)) (key : String) :
    (optionalField name write o ++ fields).lookup key
      = if key = name then (o.map write).or (fields.lookup key) else fields.lookup key := by
  by_cases same : key = name
  · cases o <;> simp [optionalField, same]
  · cases o <;> simp [optionalField, List.lookup_cons, same, beq_false_of_ne same]

/-- An optional field can be written if each value can. -/
theorem wellFormed_optionalField (each : ∀ a, (write a).WellFormed) :
    ∀ f ∈ optionalField name write o, f.2.WellFormed := by
  cases o <;> simp [optionalField, each]

end OptionalField

/-- **The optional keys are written exactly if their values are there.** -/
theorem keys_toJson (t : Tensor) :
    t.toJson.keys = writtenKeys t.allowPartial.isSome t.align.isSome := by
  simp [toJson_eq, fields, writtenKeys, map_fst_optionalField]

/-- Tensors are restored if the scales of their steps are. -/
theorem restores {t : Tensor} (scales : ∀ s ∈ t.transforms, Restores ofSingle single? s.scale) :
    Restores toJson ofJson? t := by
  have name := restores_ofText t.name
  have initial := t.initial.restores
  have transformed := t.transformed.restores
  have transforms := restores_ofList fun s mem => Transform.restores (scales s mem)
  constructor
  · refine wellFormed_ofFields (List.forall_mem_append.mpr ⟨List.forall_mem_append.mpr
      ⟨List.forall_mem_append.mpr ⟨?_, ?_⟩, ?_⟩, ?_⟩)
    · simp [name.wellFormed]
    · exact wellFormed_optionalField _ _ _ fun b => (restores_bool b).wellFormed
    · exact wellFormed_optionalField _ _ _ fun v => (restores_ofWord64 v).wellFormed
    · simp [initial.wellFormed, transformed.wellFormed, transforms.wellFormed]
  · have ordered := writtenKeys_sublist t.allowPartial.isSome t.align.isSome
    rw [← keys_toJson, toJson_eq] at ordered
    rw [ofJson?, toJson_eq, fields?_bind fieldNames (by decide) ordered, required_bind name,
      optional_bind restores_bool nofun, optional_bind restores_ofWord64 nofun,
      required_bind initial, required_bind transformed, required_bind transforms]
    · rfl
    all_goals simp [fields, List.lookup_cons, lookup_optionalField_append]

end Tensor

namespace NetworkDescriptor

/-- The scales of all steps are restored. -/
def ScalesRestored (d : NetworkDescriptor) : Prop :=
  ∀ t ∈ d.inputs ++ d.outputs, ∀ s ∈ t.transforms, Restores ofSingle single? s.scale

/-- Descriptors are restored if the scales of all steps are. -/
theorem restores {d : NetworkDescriptor} (scales : d.ScalesRestored) :
    Restores toJson ofJson? d := by
  obtain ⟨inputScales, outputScales⟩ := List.forall_mem_append.mp scales
  have major := restores_ofWord32 d.major
  have minor := restores_ofWord32 d.minor
  have name := restores_ofText d.name
  have cores := restores_ofWord32 d.cores
  have threads := restores_ofWord32 d.threads
  have vectorThreads := restores_ofWord32 d.vectorThreads
  have threadGroups := restores_ofList fun v (_ : v ∈ d.threadGroups) => restores_ofWord32 v
  have issuingGroups := restores_ofWord32 d.issuingGroups
  have groupNames := restores_ofList fun s (_ : s ∈ d.groupNames) => restores_ofText s
  have batchSize := restores_ofWord32 d.batchSize
  have clusterOffsets := restores_ofList fun v (_ : v ∈ d.clusterOffsets) => restores_ofWord64 v
  have inputs := restores_ofList fun t mem => Tensor.restores (inputScales t mem)
  have outputs := restores_ofList fun t mem => Tensor.restores (outputScales t mem)
  have buffers := restores_ofList fun b (_ : b ∈ d.buffers) => b.restores
  constructor
  · exact wellFormed_ofFields (by simp [major.wellFormed, minor.wellFormed, name.wellFormed,
      cores.wellFormed, threads.wellFormed, vectorThreads.wellFormed, threadGroups.wellFormed,
      issuingGroups.wellFormed, groupNames.wellFormed, batchSize.wellFormed,
      clusterOffsets.wellFormed, inputs.wellFormed, outputs.wellFormed, buffers.wellFormed])
  · have ordered : d.toJson.keys.Sublist fieldNames := .refl _
    rw [ofJson?, toJson, fields?_bind fieldNames (by decide) ordered, required_bind major,
      required_bind minor, required_bind name, required_bind cores, required_bind threads,
      required_bind vectorThreads, required_bind threadGroups, required_bind issuingGroups,
      required_bind groupNames, required_bind batchSize, required_bind clusterOffsets,
      required_bind inputs, required_bind outputs, required_bind buffers]
    all_goals rfl

/-- **A descriptor is read back from its written form** if the scales of all steps are restored. -/
theorem decode_encode {d : NetworkDescriptor} (scales : d.ScalesRestored) :
    decode d.encode = .ok d := by
  have restored := restores scales
  rw [decode, encode, render, restored.wellFormed.parse?_encode_render, Option.bind_some,
    restored.read_write]

/-! ## Descriptors of configurations -/

/-- A scale of 1 is restored. -/
theorem restores_unitScale : Restores ofSingle single? unitScale := by
  constructor
  · have written : ofSingle unitScale = .number { whole := ['1'], fraction := ['0'] } := rfl
    rw [written]
    exact .number ⟨rfl, List.forall_mem_singleton.mpr rfl, List.forall_mem_singleton.mpr rfl, nofun⟩
  · decide

/-- What is described for buffers of a direction are their tensors. -/
theorem exists_of_mem_describe {direction : Direction} {index buffer : Nat} {specs : List BufferSpec}
    {pairs : List (Tensor × TransferBuffer)} (h : describe direction index buffer specs = .ok pairs)
    {t : Tensor} (mem : t ∈ pairs.map (·.1)) :
    ∃ (name : BufferName) (s : BufferSpec) (number : Nat), t = tensorOf name s direction number := by
  obtain ⟨pair, listed, rfl⟩ := List.mem_map.mp mem
  obtain ⟨i, bound, rfl⟩ := List.getElem_of_mem listed
  obtain ⟨length, each⟩ := describe_eq_ok h
  obtain ⟨size, -, found⟩ := each i _ (List.getElem?_eq_getElem (length ▸ bound))
  rw [List.getElem?_eq_getElem bound, Option.some.injEq] at found
  exact ⟨_, _, _, congrArg Prod.fst found⟩

/-- The tensors of a configuration's descriptor are those of buffers, in their direction. -/
theorem exists_tensorOf {c : ProgramConfig} {d : NetworkDescriptor} (h : ofConfig c = .ok d) :
    (∀ t ∈ d.inputs, ∃ (name : BufferName) (s : BufferSpec) (number : Nat),
      t = tensorOf name s .inward number) ∧
    ∀ t ∈ d.outputs, ∃ (name : BufferName) (s : BufferSpec) (number : Nat),
      t = tensorOf name s .outward number := by
  obtain ⟨threads, -, h⟩ := bind_eq_ok.mp h
  obtain ⟨inputs, hinputs, h⟩ := bind_eq_ok.mp h
  obtain ⟨outputs, houtputs, h⟩ := bind_eq_ok.mp h
  cases h
  exact ⟨fun t mem => exists_of_mem_describe hinputs mem,
    fun t mem => exists_of_mem_describe houtputs mem⟩

/-- The steps of a buffer's tensor have a scale of 1. -/
theorem restores_scale_tensorOf (name : BufferName) (s : BufferSpec) (direction : Direction)
    (number : Nat) :
    ∀ step ∈ (tensorOf name s direction number).transforms,
      Restores ofSingle single? step.scale := by
  intro step mem
  rw [List.mem_singleton.mp mem]
  exact restores_unitScale

/-- A descriptor that is written and read without loss, and with the keys that each tensor should
have. -/
structure ReadsBack (d : NetworkDescriptor) : Prop where
  /-- The written form is read as the descriptor. -/
  decoded : decode d.encode = .ok d
  /-- It holds the document of the descriptor and nothing else. -/
  document : Json.parse? d.encode = some d.toJson
  /-- Inputs have both optional values, and every key is written. -/
  inputs : ∀ t ∈ d.inputs, t.allowPartial.isSome = true ∧ t.align.isSome = true ∧
    t.toJson.keys = Tensor.fieldNames
  /-- Outputs have neither, and their keys are left out. -/
  outputs : ∀ t ∈ d.outputs, t.allowPartial = none ∧ t.align = none ∧
    t.toJson.keys = ["name", "io_initial", "io_transformed", "transformseq"]

/-- **Every descriptor of a configuration is written and read without loss**, whatever its name, its
tensors and their sizes are. -/
theorem readsBack_of_ofConfig {c : ProgramConfig} {d : NetworkDescriptor} (h : ofConfig c = .ok d) :
    d.ReadsBack := by
  obtain ⟨inputs, outputs⟩ := exists_tensorOf h
  have scales : d.ScalesRestored := by
    refine List.forall_mem_append.mpr ⟨fun t mem => ?_, fun t mem => ?_⟩
    · obtain ⟨name, s, number, rfl⟩ := inputs t mem
      exact restores_scale_tensorOf name s .inward number
    · obtain ⟨name, s, number, rfl⟩ := outputs t mem
      exact restores_scale_tensorOf name s .outward number
  exact
    { decoded := decode_encode scales
      document := (restores scales).wellFormed.parse?_encode_render
      inputs := fun t mem => by
        obtain ⟨name, s, number, rfl⟩ := inputs t mem
        exact ⟨rfl, rfl, Tensor.keys_toJson _⟩
      outputs := fun t mem => by
        obtain ⟨name, s, number, rfl⟩ := outputs t mem
        exact ⟨rfl, rfl, Tensor.keys_toJson _⟩ }

/-- A name with a quote, a backslash, control characters and characters of several bytes, and sizes up
to the last word of 64 bits. -/
theorem readsBack_awkward_name :
    ∃ d : NetworkDescriptor,
      ofConfig
        { name := "a\"b\\c\n\x01\x7fé水😀", hardwareMajor := 2, hardwareMinor := 0, cores := 16
          matrixThreads := 1
          inputs := [{ type := .float16, dims := [128], space := .ddr, allowPartial := true },
            { type := .int8, dims := [1, 0xFFFFFFFFFFFFFFFF], space := .vtcm }]
          outputs := [{ type := .float, dims := [0, 10], space := .ddr }] } = .ok d ∧
      d.ReadsBack :=
  Exists.imp (fun _ h => ⟨h, readsBack_of_ofConfig h⟩) ⟨_, rfl⟩

end NetworkDescriptor

end ComputePlanner
