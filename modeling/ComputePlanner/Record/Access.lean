import ComputePlanner.Record.Parse

/-! # Reading the fields of a record
A field is asked for by tag and kind. The first field with the tag answers; a tag that is absent
answers with the zero, false or empty value of the kind; a field of another kind is a fault. -/

namespace ComputePlanner

namespace Value

/-- The byte of a byte value, and so on for the other kinds. -/
def asU8? : Value → Option UInt8
  | .u8 v => some v
  | _ => none

/-- The word of a 16-bit value. -/
def asU16? : Value → Option UInt16
  | .u16 v => some v
  | _ => none

/-- The word of a 32-bit value. -/
def asU32? : Value → Option UInt32
  | .u32 v => some v
  | _ => none

/-- The word of a 64-bit value. -/
def asU64? : Value → Option UInt64
  | .u64 v => some v
  | _ => none

/-- The flag of a flag value. -/
def asBool? : Value → Option Bool
  | .bool v => some v
  | _ => none

/-- The text of a text value. -/
def asText? : Value → Option String
  | .text v => some v
  | _ => none

/-- The contents of a byte-string value. -/
def asBytes? : Value → Option Bytes
  | .bytes v => some v
  | _ => none

/-- The words of a word list. -/
def asWords? : Value → Option (List UInt32)
  | .words vs => some vs
  | _ => none

/-- The texts of a text list. -/
def asTexts? : Value → Option (List String)
  | .texts vs => some vs
  | _ => none

/-- The record of a nested record. -/
def asRecord? : Value → Option Record
  | .record r => some r
  | _ => none

/-- The records of a record list. -/
def asRecords? : Value → Option (List Record)
  | .records rs => some rs
  | _ => none

end Value

namespace Record

/-- The value of the first field with a tag. -/
def get? (r : Record) (tag : UInt16) : Option Value := (r.find? (·.tag == tag)).map (·.value)

/-- The first field with `tag` as a value of `kind`, which `view` recognises. -/
def fetch (r : Record) (tag : UInt16) (kind : Kind) (view : Value → Option α) (absent : α) :
    Except RecordFault α :=
  match r.get? tag with
  | none => .ok absent
  | some v =>
    match view v with
    | some a => .ok a
    | none => .error (.wrongKind tag kind v.kind)

/-- A byte, 0 when absent. -/
def u8 (r : Record) (tag : UInt16) : Except RecordFault UInt8 := r.fetch tag .u8 Value.asU8? 0

/-- A 16-bit word, 0 when absent. -/
def u16 (r : Record) (tag : UInt16) : Except RecordFault UInt16 := r.fetch tag .u16 Value.asU16? 0

/-- A 32-bit word, 0 when absent. -/
def u32 (r : Record) (tag : UInt16) : Except RecordFault UInt32 := r.fetch tag .u32 Value.asU32? 0

/-- A 64-bit word, 0 when absent. -/
def u64 (r : Record) (tag : UInt16) : Except RecordFault UInt64 := r.fetch tag .u64 Value.asU64? 0

/-- A flag, clear when absent. -/
def bool (r : Record) (tag : UInt16) : Except RecordFault Bool :=
  r.fetch tag .bool Value.asBool? false

/-- A text, empty when absent. -/
def text (r : Record) (tag : UInt16) : Except RecordFault String :=
  r.fetch tag .text Value.asText? ""

/-- A byte string, empty when absent. -/
def bytes (r : Record) (tag : UInt16) : Except RecordFault Bytes :=
  r.fetch tag .bytes Value.asBytes? []

/-- A list of words, empty when absent. -/
def words (r : Record) (tag : UInt16) : Except RecordFault (List UInt32) :=
  r.fetch tag .words Value.asWords? []

/-- A list of texts, empty when absent. -/
def texts (r : Record) (tag : UInt16) : Except RecordFault (List String) :=
  r.fetch tag .texts Value.asTexts? []

/-- A nested record, none when absent. -/
def record? (r : Record) (tag : UInt16) : Except RecordFault (Option Record) :=
  r.fetch tag .record (fun v => v.asRecord?.map some) none

/-- A list of records, empty when absent. -/
def records (r : Record) (tag : UInt16) : Except RecordFault (List Record) :=
  r.fetch tag .records Value.asRecords? []

/-! ## What a read answers -/

/-- An absent tag answers with the value for it. -/
theorem fetch_of_get?_eq_none {r : Record} {tag : UInt16} (h : r.get? tag = none) (kind : Kind)
    (view : Value → Option α) (absent : α) : r.fetch tag kind view absent = .ok absent := by
  simp [fetch, h]

/-- A tag that is there answers with its first value, if it has the kind. -/
theorem fetch_of_get?_eq_some {r : Record} {tag : UInt16} {v : Value} (h : r.get? tag = some v)
    (kind : Kind) (view : Value → Option α) (absent : α) :
    r.fetch tag kind view absent =
      match view v with
      | some a => .ok a
      | none => .error (.wrongKind tag kind v.kind) := by
  simp [fetch, h]

end Record

end ComputePlanner
