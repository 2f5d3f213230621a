import ComputePlanner.Elf.Header

/-! # What an ELF image tells its loader
One segment may be a directory for the loader: entries of a tag and a value, up to the first whose
tag is 0. Some values are amounts, others are addresses at which a segment will have been loaded.
They lead to a second set of tables, which stand beside those that sections describe. Nothing of
these tables is needed here, but a file is sound only if they lie within it.

How many symbols the loader has is written nowhere. It follows from a hash table of their names and
from the relocations that refer to them.

Main definitions: **`Elf.Directory`** and **`Elf.checkLoading`**. -/

namespace ComputePlanner

namespace Elf

/-! ## The directory -/

/-- What an entry of the directory is about. -/
inductive LoaderTag
  /-- Names of symbols and libraries. -/
  | names
  | namesSize
  | symbols
  /-- Relocations with an addend. -/
  | relocations
  | relocationsSize
  /-- Relocations without an addend. -/
  | shortRelocations
  | shortRelocationsSize
  /-- Relocations of calls. -/
  | callRelocations
  | callRelocationsSize
  /-- The tag of the relocations that those of calls are like. -/
  | callRelocationsTag
  /-- A hash table of the symbols. -/
  | hash
  /-- A hash table of the symbols with a filter in front. -/
  | filteredHash
  deriving DecidableEq, Repr

/-- The number of a tag. -/
def LoaderTag.code : LoaderTag → Nat
  | callRelocationsSize => 2
  | hash => 4
  | names => 5
  | symbols => 6
  | relocations => 7
  | relocationsSize => 8
  | namesSize => 10
  | shortRelocations => 17
  | shortRelocationsSize => 18
  | callRelocationsTag => 20
  | callRelocations => 23
  | filteredHash => 0x6FFFFEF5

/-- The loader's directory: pairs of a tag's number and a value. -/
abbrev Directory := List (Nat × Nat)

/-- The value for a tag; the last entry counts. -/
def Directory.get? (d : Directory) (tag : LoaderTag) : Option Nat :=
  ((d.filter (·.1 = tag.code)).getLast?).map (·.2)

/-- The amount for a tag, 0 if there is none. -/
def Directory.amount (d : Directory) (tag : LoaderTag) : Nat := (d.get? tag).getD 0

/-- The type of the segment that is the directory. -/
def directoryType : Nat := 2

/-- The directory in a segment. -/
def directory? (f : Format) (s : Segment) (bytes : Bytes) : Option Directory :=
  (table? bytes s.offset s.fileSize).map fun table =>
    let w := f.addressSize
    let entries := (chunks (2 * w) (s.fileSize / (2 * w)) table).map fun e =>
      (f.field e 0 w, f.field e w w)
    entries.takeWhile (·.1 ≠ 0)

/-! ## Addresses -/

/-- The type of a segment that is loaded. -/
def loadedType : Nat := 1

/-- Whether a segment is loaded and an address belongs to it. -/
def Segment.covers (s : Segment) (address : Nat) : Bool :=
  s.type = loadedType && s.address ≤ address && address < s.address + s.memorySize

/-- Where in the file an address comes from: in the first segment that covers it. -/
def fileOffset? (segments : List Segment) (address : Nat) : Option Nat :=
  (segments.find? (·.covers address)).bind fun s =>
    let offset := s.offset + (address - s.address)
    if offset < UInt64.size then some offset else none

/-! ## Relocations -/

/-- The symbols that relocations refer to. -/
def relocatedSymbols? (f : Format) (withAddend : Bool) (bytes : Bytes) (offset size : Nat) :
    Option (List Nat) :=
  (table? bytes offset size).map fun table =>
    let w := f.addressSize
    let entrySize := if withAddend then 3 * w else 2 * w
    let symbolUnit := if f.wide then UInt32.size else UInt8.size
    (chunks entrySize (size / entrySize) table).map fun e => f.field e w w / symbolUnit

/-! ## Hash tables -/

/-- Machines whose hash tables have words of 64 bits if addresses have. -/
def wideHashMachines : List Nat := [22, 41]

/-- The symbols of a hash table: each has a place in its second part. -/
def hashedSymbols? (f : Format) (machine : Nat) (bytes : Bytes) (offset : Nat) : Option Nat :=
  let width := if f.wide && wideHashMachines.contains machine then 8 else 4
  (slice? bytes (offset + 4) width).map f.number

/-- The symbols of a hash table with a filter: the highest chain that a bucket starts ends with the
last symbol, which an odd hash marks. Symbols in front of `first` are not hashed. -/
def filteredHashSymbols? (f : Format) (bytes : Bytes) (offset : Nat) : Option Nat := do
  let head ← slice? bytes offset 12
  let buckets := f.field head 0 4
  let first := f.field head 4 4
  let filter := f.field head 8 4
  if buckets = 0 || first = 0 || filter = 0 then none
  else
    let start := offset + 16 + filter * f.addressSize
    let table ← slice? bytes start (4 * buckets)
    let highest := (f.words table).foldl max 0
    if highest < first then return 0
    else
      let hashes := f.words (bytes.drop (start + 4 * buckets + 4 * (highest - first)))
      (hashes.findIdx? (· % 2 = 1)).map (highest + 1 + ·)

/-! ## The check -/

/-- Checks that all that the directory leads to lies within the file, if there is a directory. -/
def checkLoading (f : Format) (machine : Nat) (segments : List Segment) (bytes : Bytes) :
    Option Unit :=
  match segments.find? (·.type = directoryType) with
  | none => some ()
  | some s => do
    let d ← directory? f s bytes
    let place? (tag : LoaderTag) := (d.get? tag).bind (fileOffset? segments)
    let place (tag : LoaderTag) := (place? tag).getD 0
    let _ ← text? bytes (place .names) (d.amount .namesSize)
    let long ← relocatedSymbols? f true bytes (place .relocations) (d.amount .relocationsSize)
    let short ← relocatedSymbols? f false bytes (place .shortRelocations)
      (d.amount .shortRelocationsSize)
    let withAddend : Bool := d.amount .callRelocationsTag = LoaderTag.relocations.code
    let calls ← relocatedSymbols? f withAddend bytes (place .callRelocations)
      (d.amount .callRelocationsSize)
    let hashed ←
      match place? .filteredHash, place? .hash with
      | some offset, _ => filteredHashSymbols? f bytes offset
      | none, some offset => hashedSymbols? f machine bytes offset
      | none, none => some 0
    let highest := (long ++ short ++ calls).foldl max 0
    let count := if highest = 0 then hashed else max hashed (highest + 1)
    let _ ← slice? bytes (place .symbols) (count * f.symbolSize)
    return ()

end Elf

end ComputePlanner
