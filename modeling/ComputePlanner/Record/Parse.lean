import ComputePlanner.Bytes.Cursor
import ComputePlanner.Record.Basic

/-! # Reading records
**`Record.parse`** reads a buffer that holds one record and nothing else. The whole tree is checked:
every field at every depth must have a known kind and data that follows the rules of that kind. The
byte that a field's header reserves may hold anything and is dropped. What breaks first, from front
to back and inside a field before behind it, is the **`RecordFault`** reported.

One level is read by `parseLevel`, which is given the reader for the records nested in it;
`parseWithin` ties the knot. A nested record is shorter than the one around it, so the length of the
buffer bounds the depth, and `parseWithin` at depth zero is only ever given the empty buffer. -/

namespace ComputePlanner

/-- Why a buffer is no record, or a field not what was asked for. -/
inductive RecordFault
  /-- Bytes are missing. -/
  | short (read : ShortRead)
  /-- More fields are announced than the bytes left could hold. -/
  | fieldCount (count available : Nat)
  /-- No kind has this code. -/
  | unknownKind (tag : UInt16) (code : UInt8)
  /-- A value of fixed width has another one. -/
  | width (tag : UInt16) (kind : Kind) (length : Nat)
  /-- A flag is neither 0 nor 1. -/
  | flag (tag : UInt16) (value : UInt8)
  /-- Text is not UTF-8. -/
  | text (tag : UInt16) (fault : Utf8.Fault)
  /-- A word list does not fill its data exactly. -/
  | wordCount (tag : UInt16) (count available : Nat)
  /-- Bytes are left behind the last element of a list. -/
  | listTail (tag : UInt16) (count : Nat)
  /-- Bytes are left behind the last field. -/
  | recordTail (count fields : Nat)
  /-- A field has another kind than the one asked for. -/
  | wrongKind (tag : UInt16) (expected found : Kind)
  deriving DecidableEq, Repr

/-- The wording of a short read. -/
def ShortRead.message (r : ShortRead) : String :=
  s!"need {r.needed} bytes at offset {r.offset}, have {r.available}"

/-- The wording of a fault. -/
def RecordFault.message : RecordFault → String
  | .short read => read.message
  | .fieldCount count available => s!"{count} fields cannot fit in {available} bytes"
  | .unknownKind tag code => s!"field {tag}: unknown kind {code}"
  | .width tag kind length => s!"field {tag}: {kind.name} with length {length}"
  | .flag tag value => s!"field {tag}: boolean value {value}"
  | .text tag fault => s!"field {tag}: {fault.message}"
  | .wordCount tag count available => s!"field {tag}: {count} words in {available} bytes"
  | .listTail tag count => s!"field {tag}: {count} trailing bytes"
  | .recordTail count fields => s!"{count} trailing bytes after {fields} fields"
  | .wrongKind tag expected found => s!"field {tag}: expected {expected.name}, found {found.name}"

/-- A read whose failure is a fault of the record. -/
def reading (r : Except ShortRead α) : Except RecordFault α := r.mapError .short

/-- Bytes of a field's header. -/
def fieldHeaderSize : Nat := 8

/-- The `n` words at the front. -/
def parseWords : Nat → Bytes → List UInt32
  | 0, _ => []
  | n + 1, data => UInt32.ofNat (ofLittleEndian (data.take 4)) :: parseWords n (data.drop 4)

/-- The next `n` texts, each behind its length. -/
def parseTexts (tag : UInt16) : Nat → Cursor → Except RecordFault (List String × Cursor)
  | 0, c => .ok ([], c)
  | n + 1, c => do
    let (data, c) ← reading c.chunk
    let s ← (Utf8.decode data).mapError (.text tag)
    let (ss, c) ← parseTexts tag n c
    return (s :: ss, c)

/-- The next `n` records, each behind its length. -/
def parseRecords (nested : Bytes → Except RecordFault Record) :
    Nat → Cursor → Except RecordFault (List Record × Cursor)
  | 0, c => .ok ([], c)
  | n + 1, c => do
    let (data, c) ← reading c.chunk
    let r ← nested data
    let (rs, c) ← parseRecords nested n c
    return (r :: rs, c)

/-- Nothing may be left behind a list. -/
def endOfList (tag : UInt16) (c : Cursor) : Except RecordFault Unit :=
  if c.remaining = 0 then .ok () else .error (.listTail tag c.remaining)

/-- The data of a fixed-width value, as a number. -/
def parseFixed (tag : UInt16) (kind : Kind) (width : Nat) (data : Bytes) : Except RecordFault Nat :=
  if data.length = width then .ok (ofLittleEndian data) else .error (.width tag kind data.length)

/-- The value that a field's data holds. -/
def parseValue (nested : Bytes → Except RecordFault Record) (tag : UInt16) (kind : Kind)
    (data : Bytes) : Except RecordFault Value :=
  match kind with
  | .u8 => do return .u8 (UInt8.ofNat (← parseFixed tag .u8 1 data))
  | .u16 => do return .u16 (UInt16.ofNat (← parseFixed tag .u16 2 data))
  | .u32 => do return .u32 (UInt32.ofNat (← parseFixed tag .u32 4 data))
  | .u64 => do return .u64 (UInt64.ofNat (← parseFixed tag .u64 8 data))
  | .bool => do
    let n ← parseFixed tag .bool 1 data
    if n ≤ 1 then return .bool (n == 1) else throw (.flag tag (UInt8.ofNat n))
  | .text => do return .text (← (Utf8.decode data).mapError (.text tag))
  | .bytes => return .bytes data
  | .words => do
    let (count, c) ← reading (Cursor.start data).u32
    if c.remaining = count.toNat * 4 then return .words (parseWords count.toNat c.rest)
    else throw (.wordCount tag count.toNat c.remaining)
  | .texts => do
    let (count, c) ← reading (Cursor.start data).u32
    let (ss, c) ← parseTexts tag count.toNat c
    endOfList tag c
    return .texts ss
  | .record => do return .record (← nested data)
  | .records => do
    let (count, c) ← reading (Cursor.start data).u32
    let (rs, c) ← parseRecords nested count.toNat c
    endOfList tag c
    return .records rs

/-- The next field. -/
def parseField (nested : Bytes → Except RecordFault Record) (c : Cursor) :
    Except RecordFault (Field × Cursor) := do
  let (tag, c) ← reading c.u16
  let (code, c) ← reading c.byte
  match Kind.ofCode? code with
  | none => throw (.unknownKind tag code)
  | some kind =>
    let (_, c) ← reading c.byte
    let (data, c) ← reading c.chunk
    let value ← parseValue nested tag kind data
    return (⟨tag, value⟩, c)

/-- The next `n` fields. -/
def parseFields (nested : Bytes → Except RecordFault Record) :
    Nat → Cursor → Except RecordFault (Record × Cursor)
  | 0, c => .ok ([], c)
  | n + 1, c => do
    let (f, c) ← parseField nested c
    let (fs, c) ← parseFields nested n c
    return (f :: fs, c)

/-- One level of a record, given the reader for the records in it. A field takes at least its
header, which bounds a false count. -/
def parseLevel (nested : Bytes → Except RecordFault Record) (buf : Bytes) :
    Except RecordFault Record := do
  let (count, c) ← reading (Cursor.start buf).u32
  if c.remaining / fieldHeaderSize < count.toNat then
    throw (.fieldCount count.toNat c.remaining)
  let (fields, c) ← parseFields nested count.toNat c
  if c.remaining = 0 then return fields else throw (.recordTail c.remaining count.toNat)

/-- A record whose nesting is at most `depth` deep. -/
def parseWithin : (depth : Nat) → Bytes → Except RecordFault Record
  | 0, buf => .error (.short ⟨4, 0, buf.length⟩)
  | depth + 1, buf => parseLevel (parseWithin depth) buf

/-- The record that fills `buf`. -/
def Record.parse (buf : Bytes) : Except RecordFault Record := parseWithin buf.length buf

end ComputePlanner
