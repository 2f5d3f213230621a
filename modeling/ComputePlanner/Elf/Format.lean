import ComputePlanner.Bytes.LittleEndian
import ComputePlanner.Text.Utf8

/-! # How an ELF image stores things
An ELF image has one of two word sizes and one of two byte orders, and its first bytes tell which.
It consists of tables whose entries have a fixed size; a table has to lie within the file.

Main definitions: **`Elf.Format`**, **`Elf.format?`** and **`Elf.slice?`**. -/

namespace ComputePlanner

namespace Elf

/-! ## Parts of a file -/

/-- The part of a file from `offset` on that has `size` bytes, if the file holds it. An empty part
may start at the file's end, but not behind it. -/
def slice? (bytes : Bytes) (offset size : Nat) : Option Bytes :=
  if offset + size ≤ bytes.length then some ((bytes.drop offset).take size) else none

/-- As `slice?`, but an empty part may start anywhere. -/
def table? (bytes : Bytes) (offset size : Nat) : Option Bytes :=
  if size = 0 then some [] else slice? bytes offset size

/-- As `slice?`, for a part that has to be text. -/
def text? (bytes : Bytes) (offset size : Nat) : Option Bytes :=
  (slice? bytes offset size).bind fun text =>
    match Utf8.decode text with
    | .ok _ => some text
    | .error _ => none

/-- Cuts bytes into `count` parts of `size` bytes. -/
def chunks (size : Nat) : (count : Nat) → Bytes → List Bytes
  | 0, _ => []
  | count + 1, bytes => bytes.take size :: chunks size count (bytes.drop size)

/-! ## Formats -/

/-- How numbers are stored. -/
structure Format where
  /-- Whether addresses have 64 bits, and not 32. -/
  wide : Bool
  /-- Whether numbers are stored least significant byte first. -/
  littleEndian : Bool
  deriving DecidableEq, Repr

namespace Format

/-- The number that bytes hold. -/
def number (f : Format) (bytes : Bytes) : Nat :=
  ofLittleEndian (if f.littleEndian then bytes else bytes.reverse)

/-- The number of `width` bytes at an offset. -/
def field (f : Format) (bytes : Bytes) (offset width : Nat) : Nat :=
  f.number ((bytes.drop offset).take width)

/-- The numbers of 4 bytes that follow each other. -/
def words (f : Format) (bytes : Bytes) : List Nat :=
  (chunks 4 (bytes.length / 4) bytes).map f.number

/-- Bytes of an address. -/
def addressSize (f : Format) : Nat := if f.wide then 8 else 4

/-- Bytes of the file header. -/
def headerSize (f : Format) : Nat := if f.wide then 64 else 52

/-- Bytes of a header of a program segment. -/
def segmentHeaderSize (f : Format) : Nat := if f.wide then 56 else 32

/-- Bytes of a section's header. -/
def sectionHeaderSize (f : Format) : Nat := if f.wide then 64 else 40

/-- Bytes of a symbol. -/
def symbolSize (f : Format) : Nat := if f.wide then 24 else 16

end Format

/-- Bytes in front of the header that tell its format. -/
def identSize : Nat := 16

/-- The start of every ELF image. -/
def magic : Bytes := [0x7F, 0x45, 0x4C, 0x46]

/-- Whether a word size's number means 64 bits. -/
def wide? : UInt8 → Option Bool
  | 1 => some false
  | 2 => some true
  | _ => none

/-- Whether a byte order's number means the least significant byte first. -/
def littleEndian? : UInt8 → Option Bool
  | 1 => some true
  | 2 => some false
  | _ => none

/-- The format of a file, if it is an ELF image. -/
def format? (bytes : Bytes) : Option Format :=
  if bytes.length < identSize || !magic.isPrefixOf bytes then none
  else do
    let wide ← wide? (bytes.getD 4 0)
    let littleEndian ← littleEndian? (bytes.getD 5 0)
    return ⟨wide, littleEndian⟩

end Elf

end ComputePlanner
