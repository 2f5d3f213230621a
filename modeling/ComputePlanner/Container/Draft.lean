import ComputePlanner.Container.Codec

/-! # Building a container
A draft keeps its images in the order of their names' bytes, whatever order they are added in. A
name has to fit the table, and it can be added once: to replace an image, remove it first. -/

namespace ComputePlanner

/-- A container that is being put together. -/
structure ContainerDraft where
  /-- The images so far, in the order of their names' bytes. -/
  images : List Image
  deriving DecidableEq, Repr

/-- Whether one name comes before another in a container: by their bytes. -/
def nameBefore (a b : String) : Prop := Utf8.encode a < Utf8.encode b

instance (a b : String) : Decidable (nameBefore a b) :=
  inferInstanceAs (Decidable (Utf8.encode a < Utf8.encode b))

/-- Puts an image in front of the first one whose name comes after its own. -/
def insertImage (image : Image) : List Image → List Image
  | [] => [image]
  | other :: rest =>
    if nameBefore image.name other.name then image :: other :: rest
    else other :: insertImage image rest

namespace ContainerDraft

/-- A draft without images. -/
def empty : ContainerDraft := ⟨[]⟩

/-- The image of a name. -/
def image? (d : ContainerDraft) (name : String) : Option Image :=
  d.images.find? (·.name = name)

/-- Whether there is an image of a name. -/
def has (d : ContainerDraft) (name : String) : Bool := (d.image? name).isSome

/-- The load offset of an image, 0 if there is none. -/
def offsetOf (d : ContainerDraft) (name : String) : UInt64 :=
  ((d.image? name).map (·.offset)).getD 0

/-- The contents of an image, empty if there is none. -/
def dataOf (d : ContainerDraft) (name : String) : Bytes :=
  ((d.image? name).map (·.data)).getD []

/-- The longest name in bytes: a zero has to follow it in the table. -/
def nameLimit : Nat := Container.nameSize - 1

/-- Whether a name can stand in the table: not empty, not too long, and without a zero character,
which would end it. -/
def validName (name : String) : Bool :=
  let bytes := Utf8.encode name
  1 ≤ bytes.length && bytes.length ≤ nameLimit && !bytes.contains 0

/-- Adds an image. -/
def add (d : ContainerDraft) (image : Image) : Except FormatError ContainerDraft :=
  if validName image.name then
    if d.has image.name then .error (.entry (.imageTaken image.name))
    else .ok ⟨insertImage image d.images⟩
  else .error (.entry (.imageName image.name nameLimit))

/-- Adds an image from a file that was read. Constants are loaded in front of the dynamic ones,
which begin at their end: that is their offset. Everything else has offset 0. -/
def addFile (d : ContainerDraft) (name : String) (contents : Except FileFault Bytes) :
    Except FormatError ContainerDraft := do
  let data ← contents.mapError .file
  let offset := if name = Image.constantsName then UInt64.ofNat data.length else 0
  d.add ⟨name, offset, data⟩

/-- Takes an image out. -/
def remove (d : ContainerDraft) (name : String) : ContainerDraft :=
  ⟨d.images.filter (·.name ≠ name)⟩

/-- The container. -/
def finish (d : ContainerDraft) : Container := ⟨d.images⟩

end ContainerDraft

end ComputePlanner
