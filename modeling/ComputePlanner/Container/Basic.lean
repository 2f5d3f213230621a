import ComputePlanner.Artifact.Error

/-! # Containers
A container bundles the linked binary of a program with the artifacts planned for it, each as a
named **image**. A loader needs some of them: `Container.validate` says which are absent. -/

namespace ComputePlanner

/-- A named part of a container. -/
structure Image where
  /-- Its name. -/
  name : String
  /-- The offset that a consumer applies when it loads the image. -/
  offset : UInt64
  /-- Its contents. -/
  data : Bytes
  deriving DecidableEq, Repr

namespace Image

/-- The name of the linked binary. -/
def binaryName : String := "network.elf"

/-- The name of the network descriptor. -/
def networkName : String := "networkdesc.bin"

/-- The name of the constants, which start with the program descriptor. -/
def constantsName : String := "constants.bin"

/-- The name of the constants descriptor. -/
def constantsSizesName : String := "constantsdesc.bin"

/-- The name of the metadata document. -/
def metadataName : String := "metadata.bin"

end Image

/-- Images in the order they are stored. -/
structure Container where
  images : List Image
  deriving DecidableEq, Repr

namespace Container

/-- The first image of a name. -/
def image? (c : Container) (name : String) : Option Image := c.images.find? (·.name = name)

/-- Whether there is an image of a name. -/
def has (c : Container) (name : String) : Bool := (c.image? name).isSome

/-- The images a loader needs that are absent: the binary and the network descriptor always, and
each of the two constants images beside the other. -/
def missing (c : Container) : List String :=
  [Image.binaryName, Image.networkName].filter (!c.has ·)
    ++ (if c.has Image.constantsName && !c.has Image.constantsSizesName then
          [Image.constantsSizesName] else [])
    ++ (if c.has Image.constantsSizesName && !c.has Image.constantsName then
          [Image.constantsName] else [])

/-- Checks that a loader finds what it needs. -/
def validate (c : Container) : Except FormatError Unit :=
  if c.images.length < 2 then .error (.fewImages c.images.length)
  else if c.missing.isEmpty then .ok ()
  else .error (.missingImages c.missing)

end Container

end ComputePlanner
