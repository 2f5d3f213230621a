import ComputePlanner.Record.Parse
import ComputePlanner.Text.Quoted

/-! # Faults of artifacts
Everything that can go wrong while an artifact is built, written or read is a cause of its own in
**`FormatError`**; the wording of each is in one place, `FormatError.message`. Two of the causes are
**refusals** (`FormatError.isRefusal`): the artifact is sound but made for another reader. All the
others mean that it is damaged, incomplete or asks for something impossible. -/

namespace ComputePlanner

/-- The artifacts that are read back. -/
inductive Artifact
  | metadata
  | program
  | constants
  | container
  deriving DecidableEq, Repr

/-- The name of an artifact in messages. -/
def Artifact.name : Artifact → String
  | metadata => "metadata"
  | program => "program descriptor"
  | constants => "constants descriptor"
  | container => "container"

/-- How a record breaks its schema. -/
inductive SchemaFault
  /-- A field of the schema occurs twice. -/
  | repeated (path name : String)
  /-- A field has another kind than the schema's. -/
  | wrongKind (path name : String) (expected found : Kind)
  /-- A mandatory field is absent. -/
  | missing (path name : String)
  deriving DecidableEq, Repr

/-- The wording of a schema fault. -/
def SchemaFault.message : SchemaFault → String
  | .repeated path name => s!"{path}->{name} appears twice"
  | .wrongKind path name expected found =>
    s!"{path}->{name}: expected {expected.name}, found {found.name}"
  | .missing path name => s!"{path}->{name} is missing"

/-- Why a builder rejects an entry. -/
inductive EntryFault
  /-- A semaphore that is not declared is given a value. -/
  | semaphore (number declared : UInt16)
  /-- A write runs past the init image. -/
  | initWrite (count offset length : Nat)
  /-- A transfer uses a semaphore that is not declared. -/
  | transferSemaphore (request number declared : UInt16)
  /-- A core that the program does not have is given a multicast entry. -/
  | core (number cores : UInt16)
  /-- A thread starts at address 0. -/
  | threadEntry
  /-- The constants are mapped twice onto a core. -/
  | mappingOverlap (mask other : UInt32)
  /-- The init image is too long for its length field. -/
  | initImage (length : Nat)
  /-- A name does not fit the image table. -/
  | imageName (name : String) (limit : Nat)
  /-- An image of that name is there already. -/
  | imageTaken (name : String)
  deriving DecidableEq, Repr

/-- The wording of a rejection. -/
def EntryFault.message : EntryFault → String
  | .semaphore number declared => s!"semaphore {number} of {declared} declared"
  | .initWrite count offset length =>
    s!"init write of {count} bytes at {hex offset} exceeds image of {length} bytes"
  | .transferSemaphore request number declared =>
    s!"DMA request {request} uses semaphore {number} of {declared}"
  | .core number cores => s!"core {number} of {cores}"
  | .threadEntry => "thread entry point is 0"
  | .mappingOverlap mask other =>
    s!"constant mapping for cores {hex mask.toNat} overlaps {hex other.toNat}"
  | .initImage length => s!"L2TCM init image of {length} bytes"
  | .imageName name limit =>
    s!"segment name {quoted name} must be 1 to {limit} bytes without NUL"
  | .imageTaken name => s!"segment {quoted name} already added"

/-- Why a file cannot be read or written. -/
inductive FileFault
  | notFound
  | exists
  | notDirectory
  | isDirectory
  | nameTooLong
  /-- The contents are not UTF-8. -/
  | notText
  /-- Anything else, in the system's words. -/
  | other (text : String)
  deriving DecidableEq, Repr

/-- The wording of a file fault. -/
def FileFault.message : FileFault → String
  | notFound => "No such file or directory (os error 2)"
  | .exists => "File exists (os error 17)"
  | notDirectory => "Not a directory (os error 20)"
  | isDirectory => "Is a directory (os error 21)"
  | nameTooLong => "File name too long (os error 36)"
  | notText => "stream did not contain valid UTF-8"
  | other text => text

/-- A fault while an artifact is built, written or read. -/
inductive FormatError
  /-- Bytes are missing. -/
  | short (artifact : Artifact) (read : ShortRead)
  /-- A record is broken. -/
  | record (fault : RecordFault)
  /-- A metadata record breaks the schema. -/
  | schema (fault : SchemaFault)
  /-- An enumerated field holds a value that is not defined. -/
  | undefinedValue (field : String) (value : UInt8)
  /-- A program descriptor's size does not match its buffer count or the data. -/
  | programSize (size buffers length : Nat)
  /-- A buffer names no memory. -/
  | programLocation (value : UInt32)
  /-- A buffer names no role. -/
  | programUsage (value : UInt32)
  /-- The counts or masks in the header are not those of the buffers. -/
  | programHeader
  /-- A constants descriptor has another length than its only one. -/
  | constantsSize (length expected : Nat)
  /-- An error-correction flag is neither 0 nor 1. -/
  | constantsFlag
  /-- More images are announced than the data could hold. -/
  | imageCount (count length : Nat)
  /-- An image name is not UTF-8. -/
  | imageText (fault : Utf8.Fault)
  /-- An image lies outside the data. -/
  | imageRange (name : String) (position size length : Nat)
  /-- A container has too few images to be loaded. -/
  | fewImages (count : Nat)
  /-- The data does not start as the artifact does. -/
  | badMagic (artifact : Artifact)
  /-- The artifact has another version. -/
  | version (artifact : Artifact) (found expected : Nat)
  /-- The document requires fields that this reader does not know. -/
  | unsupported (fields : List String)
  /-- A name is not that of a metadata field. -/
  | unknownField (name : String)
  /-- A field that has no default was never set. -/
  | incomplete (field : String)
  /-- A builder rejects an entry. -/
  | entry (fault : EntryFault)
  /-- Images that a loader needs are absent. -/
  | missingImages (names : List String)
  /-- A file cannot be read or written. -/
  | file (fault : FileFault)
  /-- A write begins so high that its end is no address: there is no such range, and the builder
  cannot go on. -/
  | wrappedWrite (count offset : Nat)
  deriving DecidableEq, Repr

namespace FormatError

/-- The wording for data that is no such artifact. -/
def malformed (what reason : String) : String := s!"Malformed {what}: {reason}"

/-- The wording of an error. -/
def message : FormatError → String
  | short artifact read => malformed artifact.name read.message
  | record fault => malformed "record" fault.message
  | schema fault => malformed Artifact.metadata.name fault.message
  | undefinedValue field value =>
    malformed Artifact.metadata.name s!"{field}: unknown value {value}"
  | programSize size buffers length =>
    malformed Artifact.program.name s!"size {size} for {buffers} buffers in {length} bytes"
  | programLocation value => malformed Artifact.program.name s!"location {value}"
  | programUsage value => malformed Artifact.program.name s!"usage {value}"
  | programHeader => malformed Artifact.program.name "header counts disagree with buffer table"
  | constantsSize length expected =>
    malformed Artifact.constants.name s!"{length} bytes, expected {expected}"
  | constantsFlag => malformed Artifact.constants.name "ECC flag out of range"
  | imageCount count length =>
    malformed Artifact.container.name s!"{count} images cannot fit in {length} bytes"
  | imageText fault => malformed Artifact.container.name s!"image name: {fault.message}"
  | imageRange name position size length =>
    malformed Artifact.container.name s!"image {name} at {position}+{size} exceeds {length} bytes"
  | fewImages count =>
    malformed Artifact.container.name s!"{count} images, at least 2 required"
  | badMagic artifact => s!"Bad {artifact.name} magic"
  | version artifact found expected =>
    s!"Incompatible {artifact.name} version: found {found}, expected {expected}"
  | unsupported fields => "Unsupported required fields: " ++ ", ".intercalate fields
  | unknownField name => "Unknown metadata field: " ++ name
  | incomplete field => s!"Incomplete document: {field} must be set"
  | entry fault => "Invalid entry: " ++ fault.message
  | missingImages names => "Missing container segments: " ++ ", ".intercalate names
  | file fault => "I/O error: " ++ fault.message
  | wrappedWrite count offset => s!"write of {count} bytes at {hex offset} wraps around"

/-- Whether a sound artifact was refused because it is made for another reader. -/
def isRefusal : FormatError → Bool
  | version .. | unsupported _ => true
  | _ => false

end FormatError

end ComputePlanner
