import ComputePlanner.Artifact.Reading

/-! # The constants descriptor
How many bytes of constants a program has and whether they are stored with error correction: two
words of eight bytes, two flags, and zeros up to a multiple of eight bytes. -/

namespace ComputePlanner

/-- Sizes and error correction of a program's constants. -/
structure ConstantsDescriptor where
  /-- Bytes that are loaded once for a program. -/
  staticSize : UInt64
  /-- Bytes that are loaded for each activation. -/
  dynamicSize : UInt64
  /-- Whether the static constants have error correction. -/
  staticEcc : Bool
  /-- Whether the dynamic constants have error correction. -/
  dynamicEcc : Bool
  deriving DecidableEq, Repr

namespace ConstantsDescriptor

/-- Bytes of the written form. -/
def encodedSize : Nat := 24

/-- The written form. -/
def encode (d : ConstantsDescriptor) : Bytes :=
  word64 d.staticSize ++ word64 d.dynamicSize ++ [flagByte d.staticEcc, flagByte d.dynamicEcc]
    ++ List.replicate 6 0

@[simp] theorem length_encode (d : ConstantsDescriptor) : d.encode.length = encodedSize := by
  simp [encode, encodedSize]

/-- Reads a descriptor; what follows the flags does not count. -/
def reading : Reading ConstantsDescriptor := do
  let staticSize ← Artifact.constants.read Cursor.u64
  let dynamicSize ← Artifact.constants.read Cursor.u64
  let staticEcc ← Artifact.constants.read Cursor.byte
  let dynamicEcc ← Artifact.constants.read Cursor.byte
  if 1 < staticEcc ∨ 1 < dynamicEcc then throw .constantsFlag
  return ⟨staticSize, dynamicSize, staticEcc = 1, dynamicEcc = 1⟩

/-- The descriptor a buffer holds. -/
def decode (buf : Bytes) : Except FormatError ConstantsDescriptor :=
  if buf.length = encodedSize then reading.run buf
  else .error (.constantsSize buf.length encodedSize)

end ConstantsDescriptor

end ComputePlanner
