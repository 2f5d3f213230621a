import ComputePlanner.Metadata.Codec

/-! # Reading the metadata document
A document's payload is a magic number and its root record. Older loaders expect a **terminator** in
front of it; a reader drops one, unless the data is a payload as it stands.

**`readMetadata`** is the reader's side of the contract: the payload must follow the schema, its
major version must be this reader's, and it must not require a field this reader does not know. The
last two are refusals of a sound document and are told apart from damage. -/

namespace ComputePlanner

/-- The format's major version; readers refuse another. -/
def metadataMajor : UInt16 := 2

/-- The format's minor version; readers accept any. -/
def metadataMinor : UInt16 := 1

/-- The start of every payload: `AICM`. -/
def metadataMagic : Bytes := [0x41, 0x49, 0x43, 0x4D]

/-- What older loaders expect in front of a payload: a version that no document has. -/
def terminator : Bytes := [0xFF, 0xFF, 0xFF, 0xFF]

/-- What follows `front` in `buf`, if `buf` starts with it. -/
def dropFront? : Bytes → Bytes → Option Bytes
  | [], buf => some buf
  | b :: front, c :: buf => if b = c then dropFront? front buf else none
  | _ :: _, [] => none

@[simp] theorem dropFront?_append (front rest : Bytes) :
    dropFront? front (front ++ rest) = some rest := by
  induction front with
  | nil => rfl
  | cons b front ih => simp [dropFront?, ih]

/-- The root record of a payload that follows the schema. -/
def verifyPayload (buf : Bytes) : Except FormatError Record :=
  match dropFront? metadataMagic buf with
  | none => .error (.badMagic .metadata)
  | some body => do
    let r ← (Record.parse body).mapError .record
    (verifyRecord MetadataSchema.root MetadataSchema.rootName r).mapError .schema
    return r

/-- The payload of a buffer. One that is a payload as it stands is left alone, so a payload that
happens to start like the terminator is not damaged. -/
def dropTerminator (buf : Bytes) : Bytes :=
  match verifyPayload buf with
  | .ok _ => buf
  | .error _ => (dropFront? terminator buf).getD buf

/-- The fields a document requires that this reader does not know. -/
def unsupportedFields (md : Metadata) : List String := md.requiredFields.filter (!isKnownField ·)

/-- The document a buffer holds. -/
def readMetadata (buf : Bytes) : Except FormatError Metadata := do
  let r ← verifyPayload (dropTerminator buf)
  let (major, _) ← Metadata.versionOfRecord r
  if major ≠ metadataMajor then
    throw (.version .metadata major.toNat metadataMajor.toNat)
  let md ← Metadata.ofRecord r
  let unsupported := unsupportedFields md
  if unsupported.isEmpty then return md else throw (.unsupported unsupported)

end ComputePlanner
