import ComputePlanner.Proofs.Metadata.Decoding
import ComputePlanner.Proofs.Metadata.RoundTrip

/-! # Refused or damaged
A reader that cannot run a document says whether the document is sound but made for another reader, or
damaged. The record is verified, its version compared, the document decoded and only then its
requirements looked at, so the answer depends on the order of these four. A record that verifies is
**legible**: decoding it fails at most with a code that is not defined for its field. Such a code hides
the requirements, and the document counts as damaged whatever it requires.

Main statement: **`readerContract`**, the answer to any data. The order matters:
`readMetadata_newerCode`. -/

namespace ComputePlanner

open MetadataSchema

/-! ## Undefined codes -/

/-- Codes that a reader does not define for an enumerated field. -/
inductive Undefined : String → UInt8 → Prop
  | memory {code : UInt8} (none : CoreMemory.ofCode? code = none) : Undefined "addrSpace" code
  | action {code : UInt8} (none : SemaphoreAction.ofCode? code = none) : Undefined "semOp" code
  | width {code : UInt8} (none : DoorbellWidth.ofCode? code = none) : Undefined "opSize" code
  | space {code : UInt8} (none : DeviceSpace.ofCode? code = none) : Undefined "devAddrSpace" code
  | direction {code : UInt8} (none : Direction.ofCode? code = none) : Undefined "inOut" code
  | portType {code : UInt8} (none : PortType.ofCode? code = none) : Undefined "portType" code
  | heapBehavior {code : UInt8} (none : HeapBehavior.ofCode? code = none) :
    Undefined "networkHeapBehavior" code
  | caching {code : UInt8} (none : ConstantsCaching.ofCode? code = none) :
    Undefined "Constants" code

/-- A step of decoding that fails at most with a code that is not defined. -/
def Legible (x : Except FormatError α) : Prop :=
  ∀ fault, x = .error fault → ∃ field code, fault = .undefinedValue field code ∧ Undefined field code

/-- A code beyond the highest of its field is not defined for it. -/
theorem undefined_of_lt {name : String} {code : UInt8} (beyond : highestCode name < code) :
    Undefined name code := by
  unfold highestCode at beyond
  split at beyond
  · exact .memory (CoreMemory.enumerates.eq_none_of_lt beyond)
  · exact .direction (Direction.enumerates.eq_none_of_lt beyond)
  · exact .portType (PortType.enumerates.eq_none_of_lt beyond)
  · exact .heapBehavior (HeapBehavior.enumerates.eq_none_of_lt beyond)
  · exact .caching (ConstantsCaching.enumerates.eq_none_of_lt beyond)
  · exact .space (DeviceSpace.enumerates.eq_none_of_lt beyond)
  · exact .width (DoorbellWidth.enumerates.eq_none_of_lt beyond)
  · exact .action (SemaphoreAction.enumerates.eq_none_of_lt beyond)
  · -- the other fields use all codes
    have room : 255 < code.toNat := UInt8.lt_iff_toNat_lt.mp beyond
    exact absurd room (Nat.not_lt.mpr (Nat.le_of_lt_succ code.toNat_lt))

section

variable {r : Record}

/-- **A root record that follows the schema is legible.** -/
theorem Metadata.legible_ofRecord (h : Follows root r) : Legible (Metadata.ofRecord r) := by
  intro fault failed
  obtain ⟨name, code, -, beyond, same⟩ := (Metadata.decodes h).fault fault failed
  exact ⟨name, code, same, undefined_of_lt beyond⟩

/-- A document that was read requires what its record lists. -/
theorem Metadata.requiredFields_of_ofRecord :
    ∀ md, Metadata.ofRecord r = .ok md → r.texts 36 = .ok md.requiredFields := by
  -- the list is read behind the nested records and 24 more steps
  iterate 42 refine of_bind_eq_ok fun _ _ => ?_
  refine of_bind_eq_ok fun names read => ?_
  refine of_bind_eq_ok fun _ _ => ?_
  rintro md ⟨⟩
  exact mapError_eq_ok.mp read

end

/-! ## The answer to any data -/

/-- What is not accepted as a payload is damaged. -/
theorem isRefusal_of_verifyPayload {buf : Bytes} {fault : FormatError}
    (h : verifyPayload buf = .error fault) : fault.isRefusal = false := by
  rw [verifyPayload] at h
  split at h
  · cases h
    rfl
  · next body _ =>
    cases parsed : Record.parse body with
    | error fault' =>
      rw [parsed] at h
      cases h
      rfl
    | ok r =>
      rw [parsed, mapError_ok, ok_bind] at h
      cases verified : verifyRecord root rootName r with
      | error fault' =>
        rw [verified] at h
        cases h
        rfl
      | ok _ =>
        rw [verified] at h
        cases h

/-- The record of a payload follows the schema. -/
theorem follows_of_verifyPayload {buf : Bytes} {r : Record} (h : verifyPayload buf = .ok r) :
    Follows root r := by
  rw [verifyPayload] at h
  split at h
  · cases h
  · obtain ⟨r', -, h⟩ := bind_eq_ok.mp h
    obtain ⟨⟨⟩, verified, h⟩ := bind_eq_ok.mp h
    cases h
    exact (verifyRecord_eq_ok_iff ..).mp (mapError_eq_ok.mp verified)

/-- At most one terminator is dropped. -/
theorem dropTerminator_cases (buf : Bytes) :
    dropTerminator buf = buf ∨ buf = terminator ++ dropTerminator buf := by
  rw [dropTerminator]
  cases verifyPayload buf with
  | ok r => exact .inl rfl
  | error fault =>
    cases front : dropFront? terminator buf with
    | none => exact .inl rfl
    | some rest => exact .inr (append_of_dropFront? front)

/-- What a reader answers to data whose payload holds a record of a major version that requires
names. -/
structure RecordAnswer (buf : Bytes) (r : Record) (major : UInt16) (names : List String) : Prop where
  versionRead : r.u16 1 = .ok major
  namesRead : r.texts 36 = .ok names
  /-- Another version is refused. -/
  version : major ≠ metadataMajor →
    readMetadata buf = .error (.version .metadata major.toNat metadataMajor.toNat)
  /-- Requirements that are not known are refused, in order, if the document can be decoded. -/
  unsupported : major = metadataMajor → names.filter (!isKnownField ·) ≠ [] →
    (∃ md, Metadata.ofRecord r = .ok md) →
    readMetadata buf = .error (.unsupported (names.filter (!isKnownField ·)))
  /-- If it cannot, the reason is an undefined code, and the document counts as damaged. -/
  undefined : major = metadataMajor → ∀ fault, Metadata.ofRecord r = .error fault →
    readMetadata buf = .error fault ∧
      ∃ field code, fault = .undefinedValue field code ∧ Undefined field code
  /-- Everything else is the document. -/
  accepted : major = metadataMajor → names.filter (!isKnownField ·) = [] →
    ∀ md, Metadata.ofRecord r = .ok md → readMetadata buf = .ok md

/-- What a reader answers to data. -/
structure ReaderContract (buf : Bytes) : Prop where
  payload : dropTerminator buf = buf ∨ buf = terminator ++ dropTerminator buf
  /-- What does not verify is not refused. -/
  damaged : ∀ fault, verifyPayload (dropTerminator buf) = .error fault →
    readMetadata buf = .error fault ∧ fault.isRefusal = false
  /-- What verifies has a version and requirements. -/
  verified : ∀ r, verifyPayload (dropTerminator buf) = .ok r →
    ∃ major names, RecordAnswer buf r major names

/-- Data whose record is known is answered by its version, then by what it is decoded to. -/
theorem readMetadata_of_record {buf : Bytes} {r : Record}
    (h : verifyPayload (dropTerminator buf) = .ok r) :
    ∃ major, r.u16 1 = .ok major ∧
      readMetadata buf =
        if major ≠ metadataMajor then
          .error (.version .metadata major.toNat metadataMajor.toNat)
        else Metadata.ofRecord r >>= fun md =>
          if (unsupportedFields md).isEmpty then .ok md
          else .error (.unsupported (unsupportedFields md)) := by
  have follows := follows_of_verifyPayload h
  obtain ⟨major, first⟩ := follows.exists_u16 (show root.kindOf? 1 = some .u16 from rfl)
  obtain ⟨minor, second⟩ := follows.exists_u16 (show root.kindOf? 2 = some .u16 from rfl)
  have version : Metadata.versionOfRecord r = .ok (major, minor) := by
    rw [Metadata.versionOfRecord, first, second]
    rfl
  refine ⟨major, first, ?_⟩
  rw [readMetadata, h, ok_bind, version, ok_bind]
  dsimp only
  split <;> rfl

/-- **What a reader answers to any data.** -/
theorem readerContract (buf : Bytes) : ReaderContract buf := by
  refine ⟨dropTerminator_cases buf, fun fault h => ?_, fun r h => ?_⟩
  · refine ⟨?_, isRefusal_of_verifyPayload h⟩
    rw [readMetadata, h]
    rfl
  · have follows := follows_of_verifyPayload h
    obtain ⟨major, first, answer⟩ := readMetadata_of_record h
    obtain ⟨names, listed⟩ := follows.exists_texts (show root.kindOf? 36 = some .texts from rfl)
    -- a document that was decoded requires the names that the record lists
    have required {md : Metadata} (decoded : Metadata.ofRecord r = .ok md) :
        unsupportedFields md = names.filter (!isKnownField ·) := by
      have again := Metadata.requiredFields_of_ofRecord md decoded
      rw [listed, Except.ok.injEq] at again
      rw [unsupportedFields, ← again]
    refine ⟨major, names, first, listed, fun other => ?_, fun same unknown decodable => ?_,
      fun same fault failed => ⟨?_, Metadata.legible_ofRecord follows fault failed⟩,
      fun same known md decoded => ?_⟩
    · rw [answer, if_pos other]
    · obtain ⟨md, decoded⟩ := decodable
      rw [answer, if_neg (not_not_intro same), decoded, ok_bind, required decoded,
        if_neg (by simpa using unknown)]
    · rw [answer, if_neg (not_not_intro same), failed]
      rfl
    · rw [answer, if_neg (not_not_intro same), decoded, ok_bind, required decoded, known]
      rfl

/-- The record of a document of this reader's version that requires what the reader does not know and
has a code that it does not define. -/
def newerCodeRecord : Record :=
  [⟨1, .u16 metadataMajor⟩, ⟨2, .u16 metadataMinor⟩, ⟨4, .u16 2⟩, ⟨5, .u16 0⟩, ⟨6, .u64 0⟩,
    ⟨8, .u16 1⟩, ⟨9, .u32 1⟩, ⟨10, .u32 2048⟩, ⟨32, .u8 7⟩, ⟨36, .texts ["Metadata->hyperThreads"]⟩]

/-- It is a sound document that is made for another reader, but it is not refused: it counts as
damaged. -/
theorem readMetadata_newerCode :
    verifyPayload (dropTerminator (metadataMagic ++ newerCodeRecord.encode)) = .ok newerCodeRecord ∧
    newerCodeRecord.u16 1 = .ok metadataMajor ∧
    newerCodeRecord.texts 36 = .ok ["Metadata->hyperThreads"] ∧
    isKnownField "Metadata->hyperThreads" = false ∧
    readMetadata (metadataMagic ++ newerCodeRecord.encode)
      ≠ .error (.unsupported ["Metadata->hyperThreads"]) ∧
    readMetadata (metadataMagic ++ newerCodeRecord.encode)
      = .error (.undefinedValue "networkHeapBehavior" 7) ∧
    (FormatError.undefinedValue "networkHeapBehavior" 7).isRefusal = false := by
  have parsed : Record.parse newerCodeRecord.encode = .ok newerCodeRecord :=
    Record.parse_encode ⟨by decide +kernel, by decide +kernel⟩
  have verified : verifyRecord root rootName newerCodeRecord = .ok () := by decide +kernel
  have payload := verifyPayload_of_follows parsed ((verifyRecord_eq_ok_iff ..).mp verified)
  have plain := (dropTerminator_of_ok payload).symm ▸ payload
  have answer : readMetadata (metadataMagic ++ newerCodeRecord.encode)
      = .error (.undefinedValue "networkHeapBehavior" 7) := by
    obtain ⟨major, first, answer⟩ := readMetadata_of_record plain
    cases first
    rw [answer]
    rfl
  exact ⟨plain, rfl, rfl, by decide +kernel, by rw [answer]; nofun, answer, rfl⟩

end ComputePlanner
