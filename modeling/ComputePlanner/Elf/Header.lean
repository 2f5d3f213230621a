import ComputePlanner.Elf.Format

/-! # The headers of an ELF image
The file header says where two tables are: **segments** are what is loaded for a run, **sections**
are what a linker puts together. They describe the same bytes.

Main definitions: **`Elf.Header`**, **`Elf.Segment`** and **`Elf.Section`**. -/

namespace ComputePlanner

namespace Elf

/-- What the file header says of the machine and of the tables. -/
structure Header where
  machine : Nat
  segmentOffset : Nat
  segmentCount : Nat
  sectionOffset : Nat
  /-- Sections, 0 if the first section's header has to be asked. -/
  sectionCount : Nat
  /-- The section with the names of sections. -/
  nameSection : Nat
  deriving DecidableEq, Repr

/-- A segment's header. -/
structure Segment where
  type : Nat
  offset : Nat
  /-- Where the segment is loaded. -/
  address : Nat
  /-- Bytes in the file. -/
  fileSize : Nat
  /-- Bytes when loaded; those that the file does not hold are zero. -/
  memorySize : Nat
  deriving DecidableEq, Repr

/-- A section's header. -/
structure Section where
  type : Nat
  address : Nat
  offset : Nat
  size : Nat
  /-- A section that belongs to this one. -/
  link : Nat
  /-- Bytes of an entry, for a section that is a table. -/
  entrySize : Nat
  deriving DecidableEq, Repr

/-- The header of a file. -/
def header? (f : Format) (bytes : Bytes) : Option Header :=
  (slice? bytes 0 f.headerSize).map fun h =>
    let tables := identSize + 8 + f.addressSize
    let counts := tables + 2 * f.addressSize + 8
    { machine := f.field h (identSize + 2) 2
      segmentOffset := f.field h tables f.addressSize
      segmentCount := f.field h counts 2
      sectionOffset := f.field h (tables + f.addressSize) f.addressSize
      sectionCount := f.field h (counts + 4) 2
      nameSection := f.field h (counts + 6) 2 }

/-- The segment whose header is given. -/
def segmentOf (f : Format) (h : Bytes) : Segment :=
  let w := f.addressSize
  let start := if f.wide then 8 else 4
  { type := f.field h 0 4
    offset := f.field h start w
    address := f.field h (start + w) w
    fileSize := f.field h (start + 3 * w) w
    memorySize := f.field h (start + 4 * w) w }

/-- The section whose header is given. -/
def sectionOf (f : Format) (h : Bytes) : Section :=
  let w := f.addressSize
  { type := f.field h 4 4
    address := f.field h (8 + w) w
    offset := f.field h (8 + 2 * w) w
    size := f.field h (8 + 3 * w) w
    link := f.field h (8 + 4 * w) 4
    entrySize := f.field h (16 + 5 * w) w }

/-- The segments of a file. -/
def segments? (f : Format) (h : Header) (bytes : Bytes) : Option (List Segment) :=
  (table? bytes h.segmentOffset (h.segmentCount * f.segmentHeaderSize)).map fun headers =>
    (chunks f.segmentHeaderSize h.segmentCount headers).map (segmentOf f)

/-- The sections of a file; at offset 0 there are none. A count of 0 stands for the size in the
first section's header, and the first section is there in any case. -/
def sections? (f : Format) (h : Header) (bytes : Bytes) : Option (List Section) :=
  if h.sectionOffset = 0 then some []
  else do
    let first ← slice? bytes h.sectionOffset f.sectionHeaderSize
    let count := if h.sectionCount = 0 then (sectionOf f first).size else h.sectionCount
    let count := max count 1
    let headers ← slice? bytes h.sectionOffset (count * f.sectionHeaderSize)
    return (chunks f.sectionHeaderSize count headers).map (sectionOf f)

/-- The type of a section that takes no place in the file. -/
def noBitsType : Nat := 8

/-- Checks that a section lies within the file and that its addresses do not wrap around. -/
def Section.checkSize (s : Section) (bytes : Bytes) : Option Unit :=
  if s.type = noBitsType || s.size = 0 then some ()
  else if s.offset + s.size ≤ bytes.length && s.address + s.size < UInt64.size then some ()
  else none

/-- The number of a section that is too large for its place and is in the first section's header
instead. -/
def linkedIndex : Nat := 0xFFFF

/-- The names in a section, which must be text; a section that is not there has none. -/
def names? (sections : List Section) (index : Nat) (bytes : Bytes) : Option Bytes :=
  let index :=
    if index = linkedIndex then (sections.head?.map (·.link)).getD 0 else index
  match sections[index]? with
  | none => some []
  | some s => do
    s.checkSize bytes
    text? bytes s.offset s.size

end Elf

end ComputePlanner
