import ComputePlanner.Bytes.LittleEndian
import ComputePlanner.Text.Utf8

/-! # Tagged records
A document is a **record**: a list of fields, each with a tag and a value of one of eleven kinds.
Records nest, one by one or in lists. A reader can walk any record without knowing what its tags
mean, and can skip fields that a newer writer added.

Every record is written as its field count followed by the fields; a field is its tag, the code of
its kind, a reserved zero byte, the length of its data and the data. Lists begin with their element
count, and the elements of text and record lists each carry their own length. All integers are
little-endian.

Main definitions:
* **`Kind`**, **`Value`**, **`Field`**, **`Record`** — the tree;
* **`Record.encode`** — its written form. -/

namespace ComputePlanner

/-- How the data of a field is written. -/
inductive Kind
  | u8
  | u16
  | u32
  | u64
  | bool
  | text
  | bytes
  | words
  | texts
  | record
  | records
  deriving DecidableEq, Repr

namespace Kind

/-- The code of a kind in a field's header. -/
def code : Kind → UInt8
  | u8 => 1
  | u16 => 2
  | u32 => 3
  | u64 => 4
  | bool => 5
  | text => 6
  | bytes => 7
  | words => 8
  | texts => 9
  | record => 10
  | records => 11

/-- The kind a code stands for. -/
def ofCode? (c : UInt8) : Option Kind :=
  match c.toNat with
  | 1 => some u8
  | 2 => some u16
  | 3 => some u32
  | 4 => some u64
  | 5 => some bool
  | 6 => some text
  | 7 => some bytes
  | 8 => some words
  | 9 => some texts
  | 10 => some record
  | 11 => some records
  | _ => none

@[simp] theorem ofCode?_code (k : Kind) : ofCode? k.code = some k := by cases k <;> rfl

/-- The name of a kind in messages. -/
def name : Kind → String
  | u8 => "U8"
  | u16 => "U16"
  | u32 => "U32"
  | u64 => "U64"
  | bool => "Bool"
  | text => "Str"
  | bytes => "Bytes"
  | words => "U32List"
  | texts => "StrList"
  | record => "Record"
  | records => "RecordList"

/-- Every kind, in the order of the codes. -/
def all : List Kind := [u8, u16, u32, u64, bool, text, bytes, words, texts, record, records]

/-- The kind of a name. -/
def ofName? (s : String) : Option Kind := all.find? (·.name == s)

end Kind

mutual

/-- A value under a tag. -/
structure Field where
  /-- What the value means to a reader of the record. -/
  tag : UInt16
  /-- The value. -/
  value : Value

/-- The value of a field. -/
inductive Value
  | u8 (v : UInt8)
  | u16 (v : UInt16)
  | u32 (v : UInt32)
  | u64 (v : UInt64)
  | bool (v : Bool)
  | text (v : String)
  | bytes (v : Bytes)
  | words (vs : List UInt32)
  | texts (vs : List String)
  | record (fields : List Field)
  | records (rs : List (List Field))

end

/-- A record: its fields in the order they are written. A tag may occur more than once. -/
abbrev Record := List Field

/-- The kind of a value. -/
def Value.kind : Value → Kind
  | .u8 _ => .u8
  | .u16 _ => .u16
  | .u32 _ => .u32
  | .u64 _ => .u64
  | .bool _ => .bool
  | .text _ => .text
  | .bytes _ => .bytes
  | .words _ => .words
  | .texts _ => .texts
  | .record _ => .record
  | .records _ => .records

/-! ## The written form -/

/-- A count or a length, in four bytes. -/
def count32 (n : Nat) : Bytes := littleEndian 4 n

/-- Bytes behind their own length. -/
def lengthFirst (data : Bytes) : Bytes := count32 data.length ++ data

/-- A field's header and data. -/
def encodeField (tag : UInt16) (kind : Kind) (data : Bytes) : Bytes :=
  word16 tag ++ [kind.code, 0] ++ lengthFirst data

mutual

/-- The data of a value. -/
def Value.data : Value → Bytes
  | .u8 v => [v]
  | .u16 v => word16 v
  | .u32 v => word32 v
  | .u64 v => word64 v
  | .bool v => [flagByte v]
  | .text v => Utf8.encode v
  | .bytes v => v
  | .words vs => count32 vs.length ++ vs.flatMap word32
  | .texts vs => count32 vs.length ++ vs.flatMap fun s => lengthFirst (Utf8.encode s)
  | .record fields => count32 fields.length ++ encodeFields fields
  | .records rs => count32 rs.length ++ encodeRecords rs

/-- The written form of a field. -/
def Field.encode : Field → Bytes
  | ⟨tag, value⟩ => encodeField tag value.kind value.data

/-- The written forms of fields, one after the other. -/
def encodeFields : List Field → Bytes
  | [] => []
  | f :: fs => f.encode ++ encodeFields fs

/-- Records one after the other, each behind its length. -/
def encodeRecords : List (List Field) → Bytes
  | [] => []
  | r :: rs => lengthFirst (count32 r.length ++ encodeFields r) ++ encodeRecords rs

end

/-- The written form of a record. -/
def Record.encode (r : Record) : Bytes := count32 r.length ++ encodeFields r

@[simp] theorem encodeFields_nil : encodeFields [] = [] := rfl

@[simp] theorem encodeFields_cons (f : Field) (fs : List Field) :
    encodeFields (f :: fs) = f.encode ++ encodeFields fs := rfl

@[simp] theorem encodeRecords_nil : encodeRecords [] = [] := rfl

@[simp] theorem encodeRecords_cons (r : Record) (rs : List Record) :
    encodeRecords (r :: rs) = lengthFirst r.encode ++ encodeRecords rs := rfl

@[simp] theorem data_record (r : Record) : (Value.record r).data = r.encode := rfl

@[simp] theorem data_records (rs : List Record) :
    (Value.records rs).data = count32 rs.length ++ encodeRecords rs := rfl

/-! ## Lengths -/

@[simp] theorem length_count32 (n : Nat) : (count32 n).length = 4 := length_littleEndian 4 n

@[simp] theorem length_lengthFirst (data : Bytes) :
    (lengthFirst data).length = 4 + data.length := by
  rw [lengthFirst, List.length_append, length_count32]

/-- Words take four bytes each. -/
theorem length_words (vs : List UInt32) : (vs.flatMap word32).length = 4 * vs.length := by
  induction vs with
  | nil => rfl
  | cons v vs ih =>
    rw [List.flatMap_cons, List.length_append, ih, length_word32, List.length_cons]
    omega

/-- Each text takes at least the four bytes of its length. -/
theorem length_texts (ss : List String) :
    4 * ss.length ≤ (ss.flatMap fun s => lengthFirst (Utf8.encode s)).length := by
  induction ss with
  | nil => exact Nat.le_refl 0
  | cons s ss ih =>
    rw [List.flatMap_cons, List.length_append, length_lengthFirst, List.length_cons]
    omega

/-- Each record of a list takes at least the four bytes of its length. -/
theorem length_encodeRecords (rs : List Record) : 4 * rs.length ≤ (encodeRecords rs).length := by
  induction rs with
  | nil => exact Nat.le_refl 0
  | cons r rs ih =>
    rw [encodeRecords_cons, List.length_append, length_lengthFirst, List.length_cons]
    omega

/-- A record of a list is no longer than the list. -/
theorem length_record_le {rs : List Record} {r : Record} (h : r ∈ rs) :
    r.encode.length ≤ (encodeRecords rs).length := by
  induction h with
  | head rs =>
    rw [encodeRecords_cons, List.length_append, length_lengthFirst]
    omega
  | tail t _ ih =>
    rw [encodeRecords_cons, List.length_append]
    omega

/-- A field takes eight bytes beside its data. -/
theorem length_field (f : Field) : f.encode.length = f.value.data.length + 8 := by
  obtain ⟨tag, value⟩ := f
  rw [Field.encode, encodeField, List.length_append, List.length_append, length_word16,
    length_lengthFirst]
  simp only [List.length_cons, List.length_nil]
  omega

/-- Each field takes at least its header. -/
theorem length_encodeFields (fs : List Field) : 8 * fs.length ≤ (encodeFields fs).length := by
  induction fs with
  | nil => exact Nat.le_refl 0
  | cons f fs ih =>
    rw [encodeFields_cons, List.length_append, length_field, List.length_cons]
    omega

/-- A field's data is shorter than the fields around it by at least its header. -/
theorem length_data_le {fs : List Field} {f : Field} (h : f ∈ fs) :
    f.value.data.length + 8 ≤ (encodeFields fs).length := by
  induction h with
  | head rs =>
    rw [encodeFields_cons, List.length_append, length_field]
    omega
  | tail t _ ih =>
    rw [encodeFields_cons, List.length_append]
    omega

/-- A record takes four bytes beside its fields. -/
theorem length_record (r : Record) : r.encode.length = 4 + (encodeFields r).length := by
  rw [Record.encode, List.length_append, length_count32]

end ComputePlanner
