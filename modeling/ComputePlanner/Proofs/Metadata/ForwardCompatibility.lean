import ComputePlanner.Proofs.Metadata.RoundTrip
import ComputePlanner.Proofs.Record.Evolution

/-! # Documents of newer writers
A newer writer may order the fields of a record as it likes and add fields that this reader's schema
does not know, at any depth. Here it is shown that this reader cannot tell: every read of a document
asks for fields of the schema only, so it sees no more than the projection of the record.

Main statement: **`readMetadata_alike`**. -/

namespace ComputePlanner

open MetadataSchema

/-! ## Nested records -/

/-- Reading the records of a list from the projection is reading them from the record, if each can
be read from its own projection. -/
theorem bind_records_project (s : Schema) (tag : UInt16) (known : s.knows tag = true)
    {read : Record → Except FormatError α} (reads : ∀ r, read ((s.below tag).project r) = read r)
    (r : Record) (k : List α → Except FormatError β) :
    (do let rs ← (s.project r).records tag; let as ← rs.mapM read; k as : Except FormatError β)
      = (do let rs ← r.records tag; let as ← rs.mapM read; k as) := by
  have same : read ∘ (s.below tag).project = read := funext reads
  rw [Record.records_project known]
  cases r.records tag with
  | error e => rfl
  | ok rs =>
    have elements : (rs.map (s.below tag).project).mapM read = rs.mapM read := by
      rw [List.mapM_map, same]
    exact congrArg (· >>= k) elements

/-- Reading a nested record, or none, from the projection is reading it from the record. -/
theorem bind_record?_project (s : Schema) (tag : UInt16) (known : s.knows tag = true)
    {read : Option Record → Except FormatError α}
    (reads : ∀ o, read (o.map (s.below tag).project) = read o) (r : Record)
    (k : α → Except FormatError β) :
    (do let o ← (s.project r).record? tag; let a ← read o; k a : Except FormatError β)
      = (do let o ← r.record? tag; let a ← read o; k a) := by
  rw [Record.record?_project known]
  cases r.record? tag with
  | error e => rfl
  | ok o => exact congrArg (· >>= k) (reads o)

/-! ## Reading from the projection -/

/-- A run. -/
theorem Region.ofRecord_project (r : Record) :
    Region.ofRecord (region.project r) = Region.ofRecord r := by
  rw [ofRecord, ofRecord]
  simp (disch := decide) only [Record.u64_project]

/-- A group as a core sees it. -/
theorem MulticastEntry.ofRecord_project (r : Record) :
    MulticastEntry.ofRecord (coreEntry.project r) = MulticastEntry.ofRecord r := by
  rw [ofRecord, ofRecord]
  simp (disch := decide) only [Record.u8_project, Record.u32_project, Record.u64_project,
    Record.bool_project]

/-- The groups that a core sees. -/
theorem coreTableOfRecord_project (r : Record) :
    coreTableOfRecord (coreTable.project r) = coreTableOfRecord r := by
  have read := bind_records_project coreTable 1 (by decide) MulticastEntry.ofRecord_project r pure
  simpa only [coreTableOfRecord, bind_pure] using read

/-- A group as the host sees it. -/
theorem HostEntry.ofRecord_project (r : Record) :
    HostEntry.ofRecord (hostEntry.project r) = HostEntry.ofRecord r := by
  rw [ofRecord, ofRecord]
  simp (disch := decide) only [Record.u32_project]

/-- The groups that the host sees. -/
theorem hostTableOfRecord_project (o : Option Record) :
    hostTableOfRecord (o.map hostTable.project) = hostTableOfRecord o := by
  cases o with
  | none => rfl
  | some r =>
    have read := bind_records_project hostTable 1 (by decide) HostEntry.ofRecord_project r pure
    simpa only [Option.map_some, hostTableOfRecord, bind_pure] using read

/-- A semaphore operation. -/
theorem SemaphoreOp.ofRecord_project (r : Record) :
    SemaphoreOp.ofRecord (semaphoreOp.project r) = SemaphoreOp.ofRecord r := by
  rw [ofRecord, ofRecord]
  simp (disch := decide) only [Record.u8_project, Record.u16_project, Record.bool_project]

/-- A doorbell write. -/
theorem DoorbellOp.ofRecord_project (r : Record) :
    DoorbellOp.ofRecord (doorbellOp.project r) = DoorbellOp.ofRecord r := by
  rw [ofRecord, ofRecord]
  simp (disch := decide) only [Record.u8_project, Record.u16_project, Record.u32_project,
    Record.u64_project]

/-- A transfer. -/
theorem Transfer.ofRecord_project (r : Record) :
    Transfer.ofRecord (transfer.project r) = Transfer.ofRecord r := by
  rw [ofRecord, ofRecord]
  simp (disch := decide) only [Record.u8_project, Record.u16_project, Record.u32_project,
    Record.u64_project,
    bind_records_project transfer 9 (by decide) SemaphoreOp.ofRecord_project,
    bind_records_project transfer 10 (by decide) DoorbellOp.ofRecord_project]

/-- A thread. -/
theorem Thread.ofRecord_project (r : Record) :
    Thread.ofRecord (thread.project r) = Thread.ofRecord r := by
  rw [ofRecord, ofRecord]
  simp (disch := decide) only [Record.u8_project, Record.u64_project]

/-- A mapping. -/
theorem ConstantMapping.ofRecord_project (r : Record) :
    ConstantMapping.ofRecord (constantMapping.project r) = ConstantMapping.ofRecord r := by
  rw [ofRecord, ofRecord]
  simp (disch := decide) only [Record.u32_project, Record.u64_project]

/-- A port. -/
theorem Port.ofRecord_project (r : Record) :
    Port.ofRecord (port.project r) = Port.ofRecord r := by
  rw [ofRecord, ofRecord]
  simp (disch := decide) only [Record.u8_project, Record.u16_project]

/-- The caching of constants. -/
theorem cachingOfRecord_project (o : Option Record) :
    cachingOfRecord (o.map networkConfig.project) = cachingOfRecord o := by
  cases o with
  | none => rfl
  | some r =>
    rw [Option.map_some, cachingOfRecord, cachingOfRecord]
    simp (disch := decide) only [Record.u8_project]

/-- A slot. -/
theorem ContextField.ofRecord_project (r : Record) :
    ContextField.ofRecord (contextField.project r) = ContextField.ofRecord r := by
  rw [ofRecord, ofRecord]
  simp (disch := decide) only [Record.u32_project, Record.bool_project, Record.text_project]

/-- The context block that a program expects. -/
theorem ContextContract.ofRecord_project (r : Record) :
    ContextContract.ofRecord (contextContract.project r) = ContextContract.ofRecord r := by
  rw [ofRecord, ofRecord]
  simp (disch := decide) only [Record.u32_project,
    bind_records_project contextContract 2 (by decide) ContextField.ofRecord_project]

/-- The context block of a document that may have none. -/
theorem contextOfRecord_project (o : Option Record) :
    contextOfRecord (o.map contextContract.project) = contextOfRecord o := by
  cases o with
  | none => rfl
  | some r => exact ContextContract.ofRecord_project r

namespace Metadata

/-- The format version. -/
theorem versionOfRecord_project (r : Record) :
    versionOfRecord (root.project r) = versionOfRecord r := by
  rw [versionOfRecord, versionOfRecord]
  simp (disch := decide) only [Record.u16_project]

/-- **A document is read from the projection of its record as from the record.** -/
theorem ofRecord_project (r : Record) : ofRecord (root.project r) = ofRecord r := by
  rw [ofRecord, ofRecord]
  simp (disch := decide) only [hostMemoryOfRecord, Record.u8_project, Record.u16_project,
    Record.u32_project, Record.u64_project, Record.bool_project, Record.text_project,
    Record.bytes_project, Record.words_project, Record.texts_project,
    bind_records_project root 15 (by decide) Region.ofRecord_project,
    bind_records_project root 25 (by decide) coreTableOfRecord_project,
    bind_record?_project root 26 (by decide) hostTableOfRecord_project,
    bind_records_project root 27 (by decide) Transfer.ofRecord_project,
    bind_records_project root 28 (by decide) Thread.ofRecord_project,
    bind_records_project root 29 (by decide) ConstantMapping.ofRecord_project,
    bind_records_project root 30 (by decide) Port.ofRecord_project,
    bind_record?_project root 33 (by decide) cachingOfRecord_project,
    bind_record?_project root 38 (by decide) contextOfRecord_project]

end Metadata

/-! ## Two writers, one reader -/

/-- **A reader cannot tell payloads apart whose records are alike.** Either the schema accepts both
or neither; and if it accepts them, their versions are the same, the documents in them are the same,
or the same fault is found, and so is the answer of the reader as a whole. -/
theorem readMetadata_alike {body body' : Bytes} {r r' : Record} (parsed : Record.parse body = .ok r)
    (parsed' : Record.parse body' = .ok r') (alike : Alike root r r') :
    (verifyRecord root rootName r = .ok () ↔ verifyRecord root rootName r' = .ok ()) ∧
    (verifyRecord root rootName r = .ok () →
      Metadata.versionOfRecord r = Metadata.versionOfRecord r' ∧
      Metadata.ofRecord r = Metadata.ofRecord r' ∧
      readMetadata (metadataMagic ++ body) = readMetadata (metadataMagic ++ body')) := by
  obtain ⟨follows, projection⟩ := alike.follows_iff_and_project_eq
  rw [verifyRecord_eq_ok_iff, verifyRecord_eq_ok_iff]
  refine ⟨follows, fun accepted => ?_⟩
  -- either record is read as their common projection is
  have same : root.project r = root.project r' := projection accepted
  have version : Metadata.versionOfRecord r = Metadata.versionOfRecord r' := by
    rw [← Metadata.versionOfRecord_project r, same, Metadata.versionOfRecord_project]
  have document : Metadata.ofRecord r = Metadata.ofRecord r' := by
    rw [← Metadata.ofRecord_project r, same, Metadata.ofRecord_project]
  have payload := verifyPayload_of_follows parsed accepted
  have payload' := verifyPayload_of_follows parsed' (follows.mp accepted)
  refine ⟨version, document, ?_⟩
  rw [readMetadata, readMetadata, dropTerminator_of_ok payload, dropTerminator_of_ok payload',
    payload, payload', ok_bind, ok_bind, version, document]

/-- The record of the small document as a newer writer may write it: the last field first, one more
field in front and one more in the context block. -/
def newerRecord : Record :=
  ⟨900, .text "later"⟩ :: ⟨38, .record (⟨9, .bool true⟩ :: Metadata.small.context.toRecord)⟩
    :: Metadata.small.toRecord.reverse.tail

/-- The newer writer's record is read as the small document. -/
theorem readMetadata_alike_newer :
    Record.parse Metadata.small.encode = .ok Metadata.small.toRecord ∧
    Record.parse newerRecord.encode = .ok newerRecord ∧
    Alike root Metadata.small.toRecord newerRecord ∧
    readMetadata (metadataMagic ++ Metadata.small.encode)
      = readMetadata (metadataMagic ++ newerRecord.encode) := by
  have parsed : Record.parse Metadata.small.encode = .ok Metadata.small.toRecord :=
    Record.parse_encode ⟨by decide +kernel, by decide +kernel⟩
  have parsed' : Record.parse newerRecord.encode = .ok newerRecord :=
    Record.parse_encode ⟨by decide +kernel, by decide +kernel⟩
  have alike : Alike root Metadata.small.toRecord newerRecord := by
    refine .trans (.reordered (List.reverse_perm _).symm) (.trans ?_ (.extended _ (by decide)))
    exact .inRecord _ rfl (.extended _ (by decide))
  have accepted : verifyRecord root rootName Metadata.small.toRecord = .ok () :=
    (verifyRecord_eq_ok_iff ..).mpr Metadata.small.follows_toRecord
  exact ⟨parsed, parsed', alike, ((readMetadata_alike parsed parsed' alike).2 accepted).2.2⟩

end ComputePlanner
