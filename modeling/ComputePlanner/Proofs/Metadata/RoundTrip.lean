import ComputePlanner.Metadata.Read
import ComputePlanner.Proofs.Record.Conformance
import ComputePlanner.Proofs.Record.RoundTrip

/-! # Documents survive being written
The writer of a document, the schema and the reader each list its fields: the tags, the kinds and
the codes have to agree through all the records nested in it. Here they are shown to.

Main statements:
* **`Metadata.follows_toRecord`** — the record of every document follows the schema;
* **`Metadata.ofRecord_toRecord`** — it is read back as the same document;
* **`readMetadata_encode`** — what a reader makes of a written document, with a terminator in front
  or without: it refuses one of another version or with requirements it does not know, and accepts
  every other as it was. -/

namespace ComputePlanner

open MetadataSchema

/-! ## What is written follows the schema -/

/-- A run. -/
@[simp] theorem Region.follows_toRecord (r : Region) : Follows region r.toRecord := by
  refine .of_fills (by decide) ?_
  simp [region, toRecord, must]

/-- A group as a core sees it. -/
@[simp] theorem MulticastEntry.follows_toRecord (e : MulticastEntry) :
    Follows coreEntry e.toRecord := by
  refine .of_fills (by decide) ?_
  simp [coreEntry, toRecord, must, may]

/-- A group as the host sees it. -/
@[simp] theorem HostEntry.follows_toRecord (e : HostEntry) : Follows hostEntry e.toRecord := by
  refine .of_fills (by decide) ?_
  simp [hostEntry, toRecord, must]

/-- A semaphore operation. -/
@[simp] theorem SemaphoreOp.follows_toRecord (op : SemaphoreOp) :
    Follows semaphoreOp op.toRecord := by
  refine .of_fills (by decide) ?_
  simp [semaphoreOp, toRecord, must, may]

/-- A doorbell write. -/
@[simp] theorem DoorbellOp.follows_toRecord (op : DoorbellOp) : Follows doorbellOp op.toRecord := by
  refine .of_fills (by decide) ?_
  simp [doorbellOp, toRecord, must, may]

/-- A transfer. -/
@[simp] theorem Transfer.follows_toRecord (t : Transfer) : Follows transfer t.toRecord := by
  refine .of_fills (by decide) ?_
  simp [transfer, toRecord, must, may, nest]

/-- A thread. -/
@[simp] theorem Thread.follows_toRecord (t : Thread) : Follows thread t.toRecord := by
  refine .of_fills (by decide) ?_
  simp [thread, toRecord, must]

/-- A mapping. -/
@[simp] theorem ConstantMapping.follows_toRecord (m : ConstantMapping) :
    Follows constantMapping m.toRecord := by
  refine .of_fills (by decide) ?_
  simp [constantMapping, toRecord, must, may]

/-- A port. -/
@[simp] theorem Port.follows_toRecord (p : Port) : Follows port p.toRecord := by
  refine .of_fills (by decide) ?_
  simp [port, toRecord, must, may]

/-- A slot. -/
@[simp] theorem ContextField.follows_toRecord (f : ContextField) :
    Follows contextField f.toRecord := by
  refine .of_fills (by decide) ?_
  simp [contextField, toRecord, must, may]

/-- The context block that a program expects. -/
@[simp] theorem ContextContract.follows_toRecord (c : ContextContract) :
    Follows contextContract c.toRecord := by
  refine .of_fills (by decide) ?_
  simp [contextContract, toRecord, must, nest]

/-- The multicast table of a core. -/
@[simp] theorem follows_coreTable (t : List MulticastEntry) :
    Follows coreTable [⟨1, .records (t.map (·.toRecord))⟩] := by
  refine .of_fills (by decide) ?_
  simp [coreTable, nest]

/-- The multicast table of the host. -/
@[simp] theorem follows_hostTable (t : List HostEntry) :
    Follows hostTable [⟨1, .records (t.map (·.toRecord))⟩] := by
  refine .of_fills (by decide) ?_
  simp [hostTable, nest]

/-- The settings of the network. -/
@[simp] theorem follows_networkConfig (c : ConstantsCaching) :
    Follows networkConfig [⟨1, .u8 c.code⟩] := by
  refine .of_fills (by decide) ?_
  simp [networkConfig, may]

/-- **The record of every document follows the schema.** -/
theorem Metadata.follows_toRecord (md : Metadata) : Follows root md.toRecord := by
  refine .of_fills (by decide) ?_
  simp [root, toRecord, must, may, nest]

/-! ## What is written is read back
In each case everything but the codes and the lists is read back as it stands. -/

/-- The code of a value is read as the value. -/
theorem defined_code {ofCode? : UInt8 → Option α} {code : α → UInt8}
    (inverse : ∀ a, ofCode? (code a) = some a) (field : String) (a : α) :
    defined field ofCode? (code a) = .ok a := by
  rw [defined, inverse]

/-- A run. -/
theorem Region.ofRecord_toRecord (r : Region) : Region.ofRecord r.toRecord = .ok r := rfl

/-- A group as a core sees it. -/
theorem MulticastEntry.ofRecord_toRecord (e : MulticastEntry) :
    MulticastEntry.ofRecord e.toRecord = .ok e := by
  have read : MulticastEntry.ofRecord e.toRecord = (do
    let memory ← defined "addrSpace" CoreMemory.ofCode? e.memory.code
    return { e with memory }) := rfl
  rw [read, defined_code CoreMemory.ofCode?_code, ok_bind]
  rfl

/-- A group as the host sees it. -/
theorem HostEntry.ofRecord_toRecord (e : HostEntry) : HostEntry.ofRecord e.toRecord = .ok e := rfl

/-- A semaphore operation. -/
theorem SemaphoreOp.ofRecord_toRecord (op : SemaphoreOp) :
    SemaphoreOp.ofRecord op.toRecord = .ok op := by
  have read : SemaphoreOp.ofRecord op.toRecord = (do
    let action ← defined "semOp" SemaphoreAction.ofCode? op.action.code
    return { op with action, point := SyncPoint.ofCode op.point.code }) := rfl
  rw [read, defined_code SemaphoreAction.ofCode?_code, ok_bind, SyncPoint.ofCode_code]
  rfl

/-- A doorbell write. -/
theorem DoorbellOp.ofRecord_toRecord (op : DoorbellOp) :
    DoorbellOp.ofRecord op.toRecord = .ok op := by
  have read : DoorbellOp.ofRecord op.toRecord = (do
    let width ← defined "opSize" DoorbellWidth.ofCode? op.width.code
    return { op with width }) := rfl
  rw [read, defined_code DoorbellWidth.ofCode?_code, ok_bind]
  rfl

/-- A transfer. -/
theorem Transfer.ofRecord_toRecord (t : Transfer) : Transfer.ofRecord t.toRecord = .ok t := by
  have read : Transfer.ofRecord t.toRecord = (do
    let semaphores ← (t.semaphores.map (·.toRecord)).mapM SemaphoreOp.ofRecord
    let doorbells ← (t.doorbells.map (·.toRecord)).mapM DoorbellOp.ofRecord
    let space ← defined "devAddrSpace" DeviceSpace.ofCode? t.space.code
    let direction ← defined "inOut" Direction.ofCode? t.direction.code
    return { t with semaphores, doorbells, space, direction }) := rfl
  rw [read, mapM_map_ok SemaphoreOp.ofRecord_toRecord, ok_bind,
    mapM_map_ok DoorbellOp.ofRecord_toRecord, ok_bind, defined_code DeviceSpace.ofCode?_code,
    ok_bind, defined_code Direction.ofCode?_code, ok_bind]
  rfl

/-- A thread. -/
theorem Thread.ofRecord_toRecord (t : Thread) : Thread.ofRecord t.toRecord = .ok t := rfl

/-- A mapping. -/
theorem ConstantMapping.ofRecord_toRecord (m : ConstantMapping) :
    ConstantMapping.ofRecord m.toRecord = .ok m := rfl

/-- A port. -/
theorem Port.ofRecord_toRecord (p : Port) : Port.ofRecord p.toRecord = .ok p := by
  have read : Port.ofRecord p.toRecord = (do
    let type ← defined "portType" PortType.ofCode? p.type.code
    return { p with type }) := rfl
  rw [read, defined_code PortType.ofCode?_code, ok_bind]
  rfl

/-- A slot. -/
theorem ContextField.ofRecord_toRecord (f : ContextField) :
    ContextField.ofRecord f.toRecord = .ok f := rfl

/-- The context block that a program expects. -/
theorem ContextContract.ofRecord_toRecord (c : ContextContract) :
    ContextContract.ofRecord c.toRecord = .ok c := by
  have read : ContextContract.ofRecord c.toRecord = (do
    let fields ← (c.fields.map (·.toRecord)).mapM ContextField.ofRecord
    return { c with fields }) := rfl
  rw [read, mapM_map_ok ContextField.ofRecord_toRecord, ok_bind]
  rfl

/-- The multicast table of a core. -/
theorem coreTableOfRecord_map (t : List MulticastEntry) :
    coreTableOfRecord [⟨1, .records (t.map (·.toRecord))⟩] = .ok t :=
  mapM_map_ok MulticastEntry.ofRecord_toRecord t

/-- The multicast table of the host. -/
theorem hostTableOfRecord_map (t : List HostEntry) :
    hostTableOfRecord (some [⟨1, .records (t.map (·.toRecord))⟩]) = .ok t :=
  mapM_map_ok HostEntry.ofRecord_toRecord t

/-- **The record of every document is read back as the document.** -/
theorem Metadata.ofRecord_toRecord (md : Metadata) : Metadata.ofRecord md.toRecord = .ok md := by
  have read : Metadata.ofRecord md.toRecord = (do
    let initRegions ← (md.initRegions.map (·.toRecord)).mapM Region.ofRecord
    let coreTables ← (md.coreTables.map fun t =>
      [⟨1, .records (t.map (·.toRecord))⟩]).mapM coreTableOfRecord
    let hostTable ← hostTableOfRecord (some [⟨1, .records (md.hostTable.map (·.toRecord))⟩])
    let transfers ← (md.transfers.map (·.toRecord)).mapM Transfer.ofRecord
    let threads ← (md.threads.map (·.toRecord)).mapM Thread.ofRecord
    let constantMappings ← (md.constantMappings.map (·.toRecord)).mapM ConstantMapping.ofRecord
    let ports ← (md.ports.map (·.toRecord)).mapM Port.ofRecord
    let constantsCaching ←
      defined "Constants" ConstantsCaching.ofCode? md.constantsCaching.code
    let context ← ContextContract.ofRecord md.context.toRecord
    let heapBehavior ← defined "networkHeapBehavior" HeapBehavior.ofCode? md.heapBehavior.code
    return { md with
      initRegions, coreTables, hostTable, transfers, threads, constantMappings, ports,
      constantsCaching, context, heapBehavior }) := rfl
  rw [read, mapM_map_ok Region.ofRecord_toRecord, ok_bind, mapM_map_ok coreTableOfRecord_map,
    ok_bind, hostTableOfRecord_map, ok_bind, mapM_map_ok Transfer.ofRecord_toRecord, ok_bind,
    mapM_map_ok Thread.ofRecord_toRecord, ok_bind, mapM_map_ok ConstantMapping.ofRecord_toRecord,
    ok_bind, mapM_map_ok Port.ofRecord_toRecord, ok_bind,
    defined_code ConstantsCaching.ofCode?_code, ok_bind, ContextContract.ofRecord_toRecord,
    ok_bind, defined_code HeapBehavior.ofCode?_code, ok_bind]
  rfl

/-! ## What a reader makes of it -/

/-- What a reader answers to a document: a refusal of another major version, else of the required
fields it does not know, in their order, else the document. -/
def Metadata.reception (md : Metadata) : Except FormatError Metadata :=
  if md.major ≠ metadataMajor then
    .error (.version .metadata md.major.toNat metadataMajor.toNat)
  else if md.requiredFields.filter (fun name => !isKnownField name) ≠ [] then
    .error (.unsupported (md.requiredFields.filter fun name => !isKnownField name))
  else .ok md

/-- A document that a reader answers itself to is accepted. -/
theorem Metadata.reception_eq_ok {md : Metadata} (version : md.major = metadataMajor)
    (known : unsupportedFields md = []) : md.reception = .ok md := by
  rw [unsupportedFields] at known
  rw [reception, if_neg (not_not_intro version), if_neg (not_not_intro known)]

/-- A payload is accepted if its record follows the schema. -/
theorem verifyPayload_of_follows {body : Bytes} {r : Record} (parsed : Record.parse body = .ok r)
    (follows : Follows root r) : verifyPayload (metadataMagic ++ body) = .ok r := by
  have verified : verifyRecord root rootName r = .ok () := (verifyRecord_eq_ok_iff ..).mpr follows
  rw [verifyPayload, dropFront?_append]
  dsimp only
  rw [parsed, mapError_ok, ok_bind, verified]
  rfl

/-- The payload of a document holds its record, if 32 bits hold the lengths of the fields. -/
theorem verifyPayload_encode {md : Metadata}
    (short : ∀ f ∈ md.toRecord, f.value.data.length < 2 ^ 32) :
    verifyPayload (metadataMagic ++ md.encode) = .ok md.toRecord :=
  verifyPayload_of_follows (Record.parse_encode ⟨(by decide : 38 < 2 ^ 32), short⟩)
    md.follows_toRecord

/-- A payload that is accepted as it stands is left alone. -/
theorem dropTerminator_of_ok {buf : Bytes} {r : Record} (h : verifyPayload buf = .ok r) :
    dropTerminator buf = buf := by
  rw [dropTerminator, h]

/-- A terminator is no magic number, so one in front is dropped. -/
theorem dropTerminator_append (buf : Bytes) : dropTerminator (terminator ++ buf) = buf := by
  -- the first bytes decide, so this computes whatever is behind
  have bad : verifyPayload (terminator ++ buf) = .error (.badMagic .metadata) := rfl
  rw [dropTerminator, bad]
  dsimp only
  rw [dropFront?_append, Option.getD_some]

/-- What a buffer holds, once its record is known. -/
theorem readMetadata_of_verifyPayload {buf : Bytes} {md : Metadata}
    (h : verifyPayload (dropTerminator buf) = .ok md.toRecord) :
    readMetadata buf = md.reception := by
  have version : Metadata.versionOfRecord md.toRecord = .ok (md.major, md.minor) := rfl
  rw [readMetadata, h, ok_bind, version, ok_bind]
  dsimp only
  by_cases major : md.major = metadataMajor
  · rw [if_neg (not_not_intro major), Metadata.ofRecord_toRecord, ok_bind]
    by_cases known : unsupportedFields md = []
    · rw [Metadata.reception_eq_ok major known, known]
      rfl
    · have unknown : md.requiredFields.filter (fun name => !isKnownField name) ≠ [] := known
      rw [if_neg (by simpa using known), Metadata.reception, if_neg (not_not_intro major),
        if_pos unknown]
      rfl
  · rw [if_pos major, Metadata.reception, if_pos major]
    rfl

/-- A document that was read has the major version of its record. -/
theorem Metadata.major_of_ofRecord {r : Record} :
    ∀ md, Metadata.ofRecord r = .ok md → r.u16 1 = .ok md.major := by
  -- the version is read behind the nine lists and nested records, of two steps each
  iterate 18 refine of_bind_eq_ok fun _ _ => ?_
  refine of_bind_eq_ok fun major read => ?_
  repeat refine of_bind_eq_ok fun _ _ => ?_
  rintro md ⟨⟩
  exact mapError_eq_ok.mp read

/-- It has the name of its record. -/
theorem Metadata.name_of_ofRecord {r : Record} :
    ∀ md, Metadata.ofRecord r = .ok md → r.text 7 = .ok md.name := by
  -- six numbers are read between the lists and the name
  iterate 24 refine of_bind_eq_ok fun _ _ => ?_
  refine of_bind_eq_ok fun name read => ?_
  repeat refine of_bind_eq_ok fun _ _ => ?_
  rintro md ⟨⟩
  exact mapError_eq_ok.mp read

/-- The version of a record has the major version that the record holds. -/
theorem Metadata.major_of_versionOfRecord {r : Record} {major minor : UInt16}
    (h : Metadata.versionOfRecord r = .ok (major, minor)) : r.u16 1 = .ok major := by
  obtain ⟨major', read, h⟩ := bind_eq_ok.mp h
  obtain ⟨minor', -, h⟩ := bind_eq_ok.mp h
  cases h
  exact mapError_eq_ok.mp read

/-- A document that was read was decoded from a record, behind both checks. -/
theorem exists_record_of_readMetadata {buf : Bytes} {md : Metadata} (h : readMetadata buf = .ok md) :
    ∃ r, verifyPayload (dropTerminator buf) = .ok r ∧ r.u16 1 = .ok metadataMajor ∧
      Metadata.ofRecord r = .ok md ∧ unsupportedFields md = [] := by
  obtain ⟨r, verified, h⟩ := bind_eq_ok.mp h
  obtain ⟨⟨major, minor⟩, version, h⟩ := bind_eq_ok.mp h
  dsimp only at h
  by_cases same : major = metadataMajor
  · subst same
    rw [if_neg (not_not_intro rfl)] at h
    obtain ⟨md', decoded, h⟩ := bind_eq_ok.mp h
    by_cases known : unsupportedFields md' = []
    · rw [if_pos (by simpa using known)] at h
      cases h
      exact ⟨r, verified, Metadata.major_of_versionOfRecord version, decoded, known⟩
    · rw [if_neg (by simpa using known)] at h
      cases h
  · rw [if_pos same] at h
    cases h

/-- A document that was read has this reader's version and requires nothing unknown. -/
theorem readMetadata_eq_ok {buf : Bytes} {md : Metadata} (h : readMetadata buf = .ok md) :
    md.major = metadataMajor ∧ unsupportedFields md = [] := by
  obtain ⟨r, -, read, decoded, known⟩ := exists_record_of_readMetadata h
  -- the version is read twice, for the check and with the document
  have again : r.u16 1 = .ok md.major := Metadata.major_of_ofRecord md decoded
  rw [read, Except.ok.injEq] at again
  exact ⟨again.symm, known⟩

/-- What is dropped was there. -/
theorem append_of_dropFront? {front buf rest : Bytes} (h : dropFront? front buf = some rest) :
    buf = front ++ rest := by
  induction front generalizing buf with
  | nil => exact Option.some.inj h
  | cons b front ih =>
    cases buf with
    | nil => cases h
    | cons c buf =>
      rw [dropFront?] at h
      by_cases same : b = c
      · rw [if_pos same] at h
        rw [same, ih h, List.cons_append]
      · rw [if_neg same] at h
        cases h

/-- A payload is the magic number and a record. -/
theorem exists_body_of_verifyPayload {buf : Bytes} {r : Record} (read : verifyPayload buf = .ok r) :
    ∃ body, buf = metadataMagic ++ body ∧ Record.parse body = .ok r := by
  rw [verifyPayload] at read
  split at read
  · cases read
  · next body start =>
    obtain ⟨r', parsed, rest⟩ := bind_eq_ok.mp read
    obtain ⟨⟨⟩, -, last⟩ := bind_eq_ok.mp rest
    cases last
    exact ⟨body, append_of_dropFront? start, mapError_eq_ok.mp parsed⟩

/-- **A document that was read has a short name**, for 32 bits said its length. -/
theorem length_name_lt_of_readMetadata {buf : Bytes} {md : Metadata} (h : readMetadata buf = .ok md) :
    (Utf8.encode md.name).length < 2 ^ 32 := by
  obtain ⟨r, verified, -, decoded, -⟩ := exists_record_of_readMetadata h
  obtain ⟨body, -, parsed⟩ := exists_body_of_verifyPayload verified
  have fits := (Record.parse_eq_ok_iff.mp parsed).1
  exact fits.length_text_lt (Metadata.name_of_ofRecord md decoded)

/-- **A written document is read back.** If 32 bits hold the lengths of its fields, its payload is
answered alike with a terminator in front and without: by a refusal of the version, by a refusal of
the requirements that the reader does not know, or by the document itself. So whatever was read once
is read again after it was written. -/
theorem readMetadata_encode (md : Metadata)
    (short : ∀ f ∈ md.toRecord, f.value.data.length < 2 ^ 32) :
    readMetadata (metadataMagic ++ md.encode) = md.reception ∧
    readMetadata (terminator ++ (metadataMagic ++ md.encode)) = md.reception ∧
    ∀ buf, readMetadata buf = .ok md → readMetadata (metadataMagic ++ md.encode) = .ok md := by
  have payload := verifyPayload_encode short
  have plain : readMetadata (metadataMagic ++ md.encode) = md.reception :=
    readMetadata_of_verifyPayload (by rw [dropTerminator_of_ok payload, payload])
  refine ⟨plain, readMetadata_of_verifyPayload ?_, fun buf read => ?_⟩
  · rw [dropTerminator_append, payload]
  · obtain ⟨version, known⟩ := readMetadata_eq_ok read
    rw [plain, Metadata.reception_eq_ok version known]

/-- A document with a group, a transfer with its handshake and a requirement. -/
def Metadata.small : Metadata :=
  { Metadata.empty with
    major := metadataMajor
    name := "net"
    coreTables := [[⟨false, 1, 256, .vtcm, 1280⟩]]
    transfers := [
      { number := 0, hostOffset := 0, space := .multicast, deviceOffset := 0, size := 256
        direction := .inward, port := 0, group := 0
        semaphores := [⟨.waitEq, 0, 1, .pre, false, true⟩]
        doorbells := [⟨.bits32, 0, 64, 1⟩]
        transaction := 0 }]
    requiredFields := [Requirement.networkName] }

/-- The small document is read back. -/
theorem readMetadata_encode_small :
    (∀ f ∈ Metadata.small.toRecord, f.value.data.length < 2 ^ 32) ∧
    readMetadata (metadataMagic ++ Metadata.small.encode) = .ok Metadata.small ∧
    readMetadata (terminator ++ (metadataMagic ++ Metadata.small.encode)) = .ok Metadata.small := by
  have short : ∀ f ∈ Metadata.small.toRecord, f.value.data.length < 2 ^ 32 := by decide +kernel
  have accepted : Metadata.small.reception = .ok Metadata.small := by decide +kernel
  obtain ⟨plain, terminated, -⟩ := readMetadata_encode Metadata.small short
  exact ⟨short, plain.trans accepted, terminated.trans accepted⟩

end ComputePlanner
