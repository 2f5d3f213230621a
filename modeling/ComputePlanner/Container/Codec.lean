import ComputePlanner.Artifact.Reading
import ComputePlanner.Bytes.Word
import ComputePlanner.Container.Basic

/-! # The written form of a container
A header of 16 bytes (magic, version, count), a table with an entry of 88 bytes for each image (name
padded with zeros, load offset, size, position), and the images' data, each padded with zeros to a
multiple of 8 bytes.

A reader follows the positions in the table, wherever they point within the buffer.

Main definitions: **`Container.encode`** and **`Container.decode`**. -/

namespace ComputePlanner

namespace Container

/-- The start of every container: `AICQPC1` and a zero byte. -/
def magic : Bytes := [0x41, 0x49, 0x43, 0x51, 0x50, 0x43, 0x31, 0x00]

/-- The version of the layout. -/
def layoutVersion : UInt32 := 1

/-- Bytes of the header. -/
def headerSize : Nat := 16

/-- Bytes for a name in the table. -/
def nameSize : Nat := 64

/-- Bytes of a table entry. -/
def entrySize : Nat := nameSize + 24

/-- Data starts at multiples of this. -/
def dataAlignment : Nat := 8

/-- A length rounded up to whole alignment units. -/
def padded (n : Nat) : Nat := (n + (dataAlignment - 1)) / dataAlignment * dataAlignment

/-- A run of bytes with zeros behind it up to the next alignment boundary. -/
def pad (data : Bytes) : Bytes := data ++ List.replicate (padded data.length - data.length) 0

/-- A name with zeros behind it up to the size of its place in the table. -/
def encodeName (name : String) : Bytes :=
  Utf8.encode name ++ List.replicate (nameSize - (Utf8.encode name).length) 0

/-- A table entry for an image whose data starts at `position`. -/
def encodeEntry (image : Image) (position : Nat) : Bytes :=
  encodeName image.name ++ word64 image.offset ++ word64 (UInt64.ofNat image.data.length)
    ++ word64 (UInt64.ofNat position)

/-- The table of images whose data starts at `position`, one behind the other. -/
def encodeTable (position : Nat) : List Image → Bytes
  | [] => []
  | image :: images =>
    encodeEntry image position ++ encodeTable (position + padded image.data.length) images

/-- Where the table of `count` images ends and their data starts. -/
def dataStart (count : Nat) : Nat := headerSize + count * entrySize

/-- The written form. -/
def encode (c : Container) : Bytes :=
  magic ++ word32 layoutVersion ++ word32 (clamp32 c.images.length)
    ++ encodeTable (dataStart c.images.length) c.images ++ c.images.flatMap fun i => pad i.data

/-- Reads an entry of the table, and the data of its image out of `buf`. -/
def readingImage (buf : Bytes) : Reading Image := do
  let name ← Artifact.container.read fun c => c.take nameSize
  let name ← (Utf8.decode (name.takeWhile (· ≠ 0))).mapError FormatError.imageText
  let offset ← Artifact.container.read Cursor.u64
  let size ← Artifact.container.read Cursor.u64
  let position ← Artifact.container.read Cursor.u64
  if position.toNat + size.toNat ≤ buf.length then
    return ⟨name, offset, (buf.drop position.toNat).take size.toNat⟩
  else throw (.imageRange name position.toNat size.toNat buf.length)

/-- Reads a container whose whole buffer is `buf`. -/
def reading (buf : Bytes) : Reading Container := do
  let _ ← Artifact.container.read fun c => c.take magic.length
  let found ← Artifact.container.read Cursor.u32
  if found ≠ layoutVersion then
    throw (.version .container found.toNat layoutVersion.toNat)
  let count ← Artifact.container.read Cursor.u32
  if (← get).remaining / entrySize < count.toNat then
    throw (.imageCount count.toNat buf.length)
  return ⟨← (readingImage buf).times count.toNat⟩

/-- The container a buffer holds. -/
def decode (buf : Bytes) : Except FormatError Container :=
  if magic.isPrefixOf buf then (reading buf).run buf else .error (.badMagic .container)

end Container

end ComputePlanner
