import ComputePlanner.Proofs.Metadata.Requirements
import ComputePlanner.Proofs.Metadata.RoundTrip
import ComputePlanner.Proofs.Record.Length

/-! # Finishing a document
Finishing fills in what follows from the rest of a draft, in six steps, and writes the document down.
The result is given here in one piece, **`Draft.completed`**, and so is what finishing needs,
**`Draft.Complete`**.

Main statements:
* **`Draft.finish_eq_ok_iff`** — when a draft can be finished, and to what;
* **`Draft.finished_of_run`** — what becomes of a new draft after any run of edits: its document is
  what was written and what follows from it, and readers accept it. -/

namespace ComputePlanner

/-- The length of a record takes the same space whatever it is. -/
theorem Metadata.length_encode_rawLength (md : Metadata) (length : UInt64) :
    ({ md with rawLength := length }).encode.length = md.encode.length := by
  simp only [encode, toRecord, length_record, encodeFields_cons, List.length_append, length_field,
    Value.data, length_word64]

namespace Draft

variable {d d' : Draft}

/-! ## What finishing needs -/

/-- What finishing needs of a draft: the fields that have no default, and an image whose length 32
bits hold. -/
structure Complete (d : Draft) : Prop where
  cores : d.document.cores ≠ 0
  vtcmSize : d.document.vtcmSize ≠ 0
  l2tcmSize : d.document.l2tcmSize ≠ 0
  image : d.document.initImage.length < 2 ^ 32

/-- The fields that have no default are asked for one after the other. -/
theorem checkComplete_eq_ok_iff {md : Metadata} :
    checkComplete md = .ok () ↔ md.cores ≠ 0 ∧ md.vtcmSize ≠ 0 ∧ md.l2tcmSize ≠ 0 := by
  rw [checkComplete, ite_error_eq_ok_iff, ite_error_eq_ok_iff, ite_error_eq_ok_iff,
    and_iff_left rfl]

/-! ## What it gives -/

/-- The names that finishing requires. -/
def finalRequirements (d : Draft) : List String :=
  if d.contextChosen then [Requirement.requiredFields, Requirement.networkName]
  else [Requirement.requiredFields, Requirement.contextContract, Requirement.networkName]

/-- The document with what follows from the rest, except for the length of its record. -/
def described (d : Draft) : Metadata :=
  { d.document with
    initSize := UInt32.ofNat d.document.initImage.length
    initRegions := nonZeroRegions d.document.initImage
    name := if d.document.name = "" then defaultName else d.document.name
    context := if d.contextChosen then d.document.context else defaultContext
    requiredFields := d.finalRequirements.foldl requiring d.document.requiredFields }

/-- The document that a draft is completed to. -/
def completed (d : Draft) : Metadata :=
  { d.described with
    rawLength :=
      if d.document.rawLength = 0 then UInt64.ofNat (2 * d.described.encode.length)
      else d.document.rawLength }

/-- The fields that finishing derives: the length and the regions of the init image, the name if there
was none, the required fields, the length of the record and the context block. -/
structure Derived where
  initSize : UInt32
  initRegions : List Region
  name : String
  requiredFields : List String
  rawLength : UInt64
  context : ContextContract

/-- A document with these derived fields. -/
def Derived.into (f : Derived) (md : Metadata) : Metadata :=
  { md with
    initSize := f.initSize
    initRegions := f.initRegions
    name := f.name
    requiredFields := f.requiredFields
    rawLength := f.rawLength
    context := f.context }

/-- The fields that are derived from a draft. -/
def Derived.ofDraft (d : Draft) : Derived :=
  ⟨d.completed.initSize, d.completed.initRegions, d.completed.name, d.completed.requiredFields,
    d.completed.rawLength, d.completed.context⟩

/-- The steps up to the last describe the document. -/
theorem document_steps (d : Draft) :
    ((d.require Requirement.requiredFields).describeImage.withName.withContext.require
      Requirement.networkName).document = d.described := by
  simp only [require_eq, describeImage, withName, withContext, described, finalRequirements]
  by_cases unnamed : d.document.name = "" <;> by_cases chosen : d.contextChosen = true <;>
    simp [edit, setName, setContext, require_eq, unnamed, chosen]

/-- The last step notes the length of the record. -/
theorem document_withRawLength (described : d'.document = d.described) :
    d'.withRawLength.document = d.completed := by
  have unset : d'.document.rawLength = d.document.rawLength := by
    rw [described]
    rfl
  rw [withRawLength, completed, unset]
  split
  · rw [edit, described]
  · exact described

/-- **A draft is finished exactly if it is complete, to the completed document.** -/
theorem finish_eq_ok_iff {doc : Document} :
    d.finish = .ok doc ↔ d.Complete ∧ doc = ⟨d.completed, payload d.completed⟩ := by
  have image : (d.require Requirement.requiredFields).document.initImage
      = d.document.initImage := by
    rw [require_eq]
    rfl
  have last := document_withRawLength (document_steps d)
  constructor
  · intro finished
    obtain ⟨⟨⟩, checked, finished⟩ := bind_eq_ok.mp finished
    obtain ⟨cores, vtcmSize, l2tcmSize⟩ := checkComplete_eq_ok_iff.mp checked
    dsimp only at finished
    rw [image] at finished
    by_cases long : UInt32.size ≤ d.document.initImage.length
    · rw [if_pos long] at finished
      cases finished
    · rw [if_neg long] at finished
      cases finished
      exact ⟨⟨cores, vtcmSize, l2tcmSize, Nat.lt_of_not_le long⟩, by rw [last]⟩
  · rintro ⟨complete, rfl⟩
    have checked := checkComplete_eq_ok_iff.mpr
      ⟨complete.cores, complete.vtcmSize, complete.l2tcmSize⟩
    have short : ¬UInt32.size ≤ d.document.initImage.length := Nat.not_le_of_lt complete.image
    rw [finish, checked, ok_bind]
    dsimp only
    rw [image, if_neg short, last]
    rfl

/-- A draft can be finished exactly if it is complete. -/
theorem exists_finish_iff : (∃ doc, d.finish = .ok doc) ↔ d.Complete := by
  constructor
  · rintro ⟨doc, finished⟩
    exact (finish_eq_ok_iff.mp finished).1
  · intro complete
    exact ⟨_, finish_eq_ok_iff.mpr ⟨complete, rfl⟩⟩

/-! ## A run of edits -/

/-- What finishing makes of the draft that a run of edits led to. -/
structure Finished (d : Draft) (edits : List Edit) (doc : Document) : Prop where
  /-- The document is what was written, except for what follows from it. -/
  metadata : doc.metadata =
    { d.document with
      initSize := UInt32.ofNat d.document.initImage.length
      initRegions := nonZeroRegions d.document.initImage
      name := if d.document.name = "" then defaultName else d.document.name
      context := if edits.any (·.choosesContext) then d.document.context else defaultContext
      requiredFields := d.document.requiredFields ++
        [Requirement.requiredFields, Requirement.contextContract, Requirement.networkName].filter
          (· ∉ d.document.requiredFields)
      rawLength := UInt64.ofNat (2 * (doc.bytes.length - 8)) }
  /-- The words hold the lengths. -/
  initSize : doc.metadata.initSize.toNat = d.document.initImage.length
  rawLength : doc.metadata.rawLength.toNat = 2 * (doc.bytes.length - 8)
  /-- The document is what was written down, behind the terminator and the magic number. -/
  bytes : doc.bytes = terminator ++ (metadataMagic ++ doc.metadata.encode)
  /-- Readers accept it, and as well without the terminator. -/
  read : readMetadata doc.bytes = .ok doc.metadata
  readPayload : readMetadata (doc.bytes.drop terminator.length) = .ok doc.metadata

/-- The names that finishing requires are different. -/
theorem nodup_finalRequirements :
    [Requirement.requiredFields, Requirement.contextContract, Requirement.networkName].Nodup := by
  decide +kernel

/-- Finishing a sound draft requires three names, a context block that was chosen being one of
them. -/
theorem Sound.requiredFields_described (sound : d.Sound) :
    d.described.requiredFields = d.document.requiredFields ++
      [Requirement.requiredFields, Requirement.contextContract, Requirement.networkName].filter
        (· ∉ d.document.requiredFields) := by
  rw [← foldl_requiring nodup_finalRequirements, described, finalRequirements]
  dsimp only
  by_cases chosen : d.contextChosen = true
  · -- the name of the context block is there already
    have there : Requirement.contextContract
        ∈ requiring d.document.requiredFields Requirement.requiredFields :=
      mem_requiring.mpr (.inl (sound.context chosen))
    rw [if_pos chosen]
    simp only [List.foldl_cons, List.foldl_nil, requiring_of_mem there]
  · rw [if_neg chosen]

/-- The length that finishing notes in a sound draft. -/
theorem Sound.rawLength_completed (sound : d.Sound) :
    d.completed.rawLength = UInt64.ofNat (2 * d.completed.encode.length) := by
  have same : d.completed.encode.length = d.described.encode.length :=
    Metadata.length_encode_rawLength d.described _
  rw [same, completed]
  exact if_pos sound.rawLength

/-- What finishing makes of a sound draft requires nothing that readers do not know. -/
theorem Sound.unsupportedFields_completed (sound : d.Sound) :
    unsupportedFields d.completed = [] := by
  have known : ∀ name ∈ d.completed.requiredFields, isKnownField name = true := by
    intro name mem
    have required : d.completed.requiredFields = d.described.requiredFields := rfl
    rw [required, sound.requiredFields_described, List.mem_append] at mem
    rcases mem with old | new
    · exact sound.known name old
    · have all : ∀ name ∈ [Requirement.requiredFields, Requirement.contextContract,
          Requirement.networkName], isKnownField name = true := by decide +kernel
      exact all name (List.mem_of_mem_filter new)
  rw [unsupportedFields, List.filter_eq_nil_iff]
  intro name mem
  simp [known name mem]

/-- Readers answer what finishing makes of a sound draft with itself. -/
theorem Sound.reception_completed (sound : d.Sound) :
    d.completed.reception = .ok d.completed :=
  Metadata.reception_eq_ok sound.major sound.unsupportedFields_completed

/-- **What is written down of a sound draft is read back**, if 32 bits hold the lengths of its
fields, with the terminator in front and without. -/
theorem Sound.readMetadata_completed (sound : d.Sound)
    (short : ∀ f ∈ d.completed.toRecord, f.value.data.length < 2 ^ 32) :
    readMetadata (Draft.payload d.completed) = .ok d.completed ∧
      readMetadata (metadataMagic ++ d.completed.encode) = .ok d.completed := by
  have payload := verifyPayload_encode short
  rw [Draft.payload, List.append_assoc,
    readMetadata_of_verifyPayload (by rw [dropTerminator_append, payload]),
    readMetadata_of_verifyPayload (by rw [dropTerminator_of_ok payload, payload])]
  exact ⟨sound.reception_completed, sound.reception_completed⟩

end Draft

/-- The record of a document is far shorter than 64 bits can say, if 32 bits hold the lengths of its
fields. -/
theorem Metadata.length_encode_lt {md : Metadata}
    (short : ∀ f ∈ md.toRecord, f.value.data.length < 2 ^ 32) : md.encode.length < 2 ^ 40 := by
  have fields : (encodeFields md.toRecord).length ≤ md.toRecord.length * (2 ^ 32 - 1 + 8) :=
    length_encodeFields_le fun f mem => Nat.le_sub_one_of_lt (short f mem)
  have count : md.toRecord.length = 38 := rfl
  rw [encode, length_record]
  omega

namespace Draft

/-- **What becomes of a new draft after any run of edits.** Whatever was refused on the way, it can
be finished exactly if it has cores, vector memory and scratch memory and 32 bits hold the length of
its image. Its document is then what was written and what follows from that, and readers answer it
with itself, if 32 bits hold the lengths of its fields. -/
theorem finished_of_run (major minor : UInt16) (edits : List Edit) :
    ((∃ doc, ((start major minor).run edits).finish = .ok doc) ↔
      ((start major minor).run edits).Complete) ∧
    ∀ doc, ((start major minor).run edits).finish = .ok doc →
      (∀ f ∈ doc.metadata.toRecord, f.value.data.length < 2 ^ 32) →
      Finished ((start major minor).run edits) edits doc := by
  refine ⟨exists_finish_iff, ?_⟩
  intro doc finished short
  have sound : ((start major minor).run edits).Sound := (sound_start major minor).run edits
  have chosen : ((start major minor).run edits).contextChosen = edits.any (·.choosesContext) := by
    rw [contextChosen_run]
    exact Bool.false_or _
  generalize (start major minor).run edits = d at finished sound chosen ⊢
  obtain ⟨complete, rfl⟩ := finish_eq_ok_iff.mp finished
  obtain ⟨read, readPayload⟩ := sound.readMetadata_completed short
  have bytes : Draft.payload d.completed
      = terminator ++ (metadataMagic ++ d.completed.encode) := List.append_assoc ..
  -- the terminator and the magic number take eight bytes
  have length : (Draft.payload d.completed).length - 8 = d.completed.encode.length := by
    have front : (terminator ++ metadataMagic).length = 8 := rfl
    rw [Draft.payload, List.length_append, front]
    exact Nat.add_sub_cancel_left ..
  have rawLength := sound.rawLength_completed
  refine
    { metadata := ?_
      initSize := UInt32.toNat_ofNat_of_lt' complete.image
      rawLength := ?_
      bytes := bytes
      read := read
      readPayload := ?_ }
  · dsimp only
    rw [length, ← rawLength, ← chosen, ← sound.requiredFields_described]
    rfl
  · dsimp only
    rw [length, rawLength]
    have record : d.completed.encode.length < 2 ^ 40 := Metadata.length_encode_lt short
    have fits : 2 * d.completed.encode.length < 2 ^ 64 := by omega
    exact UInt64.toNat_ofNat_of_lt' fits
  · dsimp only
    rw [bytes, List.drop_left]
    exact readPayload

/-- A run with edits that are refused: a thread at address 0, a write behind the end of the image and
a requirement that no reader knows. -/
def smallRun : List Edit :=
  [.cores 1, .vtcmSize 4096, .l2tcmSize 4096, .thread ⟨0, 1⟩, .resizeInit 8, .writeInitWord 4 7,
    .writeInitWord 6 7, .requirement "Metadata->color", .heapBehavior .retain]

/-- The document of the small run. -/
theorem finished_of_run_small :
    ∃ doc, ((start 2 0).run smallRun).finish = .ok doc ∧
      (∀ f ∈ doc.metadata.toRecord, f.value.data.length < 2 ^ 32) ∧
      Finished ((start 2 0).run smallRun) smallRun doc := by
  obtain ⟨able, all⟩ := finished_of_run 2 0 smallRun
  have complete : ((start 2 0).run smallRun).Complete :=
    ⟨by decide +kernel, by decide +kernel, by decide +kernel, by decide +kernel⟩
  obtain ⟨doc, finished⟩ := able.mpr complete
  have short : ∀ f ∈ doc.metadata.toRecord, f.value.data.length < 2 ^ 32 := by
    obtain ⟨-, rfl⟩ := finish_eq_ok_iff.mp finished
    decide +kernel
  exact ⟨doc, finished, short, all doc finished short⟩

end Draft

end ComputePlanner
