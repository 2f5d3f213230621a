import ComputePlanner.Record.Basic
import Mathlib.Logic.Basic

/-! # The bytes that headers reserve
The header of every field has a byte without a meaning. It is written as 0 and dropped when it is
read, so a record is read from other bytes than those it is written as. Here it is said where these
bytes lie (`Record.reserved`), at every depth, and what is left when they are set to 0 (`clearAt`).
A record is **written as** certain bytes if these are its written form up to the reserved ones
(`Record.WrittenAs`). The same is said of the parts of a record, and what a part is written as is
taken apart along its written form.

Main definitions: **`clearAt`**, **`Record.reserved`**, **`Record.WrittenAs`**. -/

namespace ComputePlanner

/-! ## Clearing bytes -/

/-- Bytes with 0 in certain places. -/
def clearAt (places : List Nat) (bytes : Bytes) : Bytes :=
  bytes.mapIdx fun i b => if i ∈ places then 0 else b

/-- Clearing changes no length. -/
@[simp] theorem length_clearAt (places : List Nat) (bytes : Bytes) :
    (clearAt places bytes).length = bytes.length := List.length_mapIdx

/-- Without places nothing is cleared. -/
@[simp] theorem clearAt_nil (bytes : Bytes) : clearAt [] bytes = bytes := by
  refine List.mapIdx_eq_iff.mpr fun i => ?_
  simp

/-- What is left in two parts when it is cleared was two parts, each cleared in its own places. -/
theorem clearAt_eq_append_iff {bytes front behind : Bytes} {places places' : List Nat}
    (inside : ∀ i ∈ places, i < front.length) :
    clearAt (places ++ places'.map (front.length + ·)) bytes = front ++ behind ↔
      ∃ front' behind', bytes = front' ++ behind' ∧ clearAt places front' = front ∧
        clearAt places' behind' = behind := by
  -- a place in front is none of the places behind, and the other way round
  have before {i : Nat} (h : i < front.length) :
      i ∈ places ++ places'.map (front.length + ·) ↔ i ∈ places := by
    rw [List.mem_append, or_iff_left_iff_imp]
    intro behind
    obtain ⟨j, -, rfl⟩ := List.mem_map.mp behind
    omega
  have after (i : Nat) :
      i + front.length ∈ places ++ places'.map (front.length + ·) ↔ i ∈ places' := by
    rw [List.mem_append, or_iff_right, List.mem_map]
    · constructor
      · rintro ⟨j, mem, same⟩
        obtain rfl : j = i := by omega
        exact mem
      · exact fun mem => ⟨i, mem, Nat.add_comm _ _⟩
    · intro front
      have := inside _ front
      omega
  have apart {front' : Bytes} (behind' : Bytes) (length : front'.length = front.length) :
      (front'.mapIdx fun i b =>
          if i ∈ places ++ places'.map (front.length + ·) then 0 else b) = clearAt places front' ∧
      (behind'.mapIdx fun i b =>
          if i + front'.length ∈ places ++ places'.map (front.length + ·) then 0 else b)
        = clearAt places' behind' := by
    constructor
    · refine List.mapIdx_eq_mapIdx_iff.mpr fun i h => ?_
      simp only [before (length ▸ h)]
    · simp only [length, after]
      rfl
  rw [clearAt, List.mapIdx_eq_append_iff]
  constructor
  · rintro ⟨front', behind', rfl, first, next⟩
    have length : front'.length = front.length := by rw [← first, List.length_mapIdx]
    rw [(apart behind' length).1] at first
    rw [(apart behind' length).2] at next
    exact ⟨front', behind', rfl, first, next⟩
  · rintro ⟨front', behind', rfl, first, next⟩
    have length : front'.length = front.length := by rw [← first, length_clearAt]
    refine ⟨front', behind', rfl, ?_, ?_⟩
    · rw [(apart behind' length).1, first]
    · rw [(apart behind' length).2, next]

/-- What is left behind other bytes was behind them before. -/
theorem clearAt_eq_append_iff_of_front {bytes front behind : Bytes} {places : List Nat} :
    clearAt (places.map (front.length + ·)) bytes = front ++ behind ↔
      ∃ behind', bytes = front ++ behind' ∧ clearAt places behind' = behind := by
  have parts := @clearAt_eq_append_iff bytes front behind [] places (fun i mem => nomatch mem)
  rw [List.nil_append] at parts
  rw [parts]
  constructor
  · rintro ⟨front', behind', rfl, first, next⟩
    rw [clearAt_nil] at first
    exact ⟨behind', first ▸ rfl, next⟩
  · rintro ⟨behind', rfl, next⟩
    exact ⟨front, behind', rfl, clearAt_nil front, next⟩

/-- What is left with 0 in the fourth place had any byte there. -/
theorem clearAt_fourth_iff {a b c : UInt8} {rest bytes : Bytes} :
    clearAt [3] bytes = a :: b :: c :: 0 :: rest ↔
      ∃ reserved, bytes = a :: b :: c :: reserved :: rest := by
  have cleared (a b c reserved : UInt8) (rest : Bytes) :
      clearAt [3] (a :: b :: c :: reserved :: rest) = a :: b :: c :: 0 :: rest := by
    refine List.mapIdx_eq_iff.mpr fun i => ?_
    match i with
    | 0 | 1 | 2 | 3 | i + 4 => simp
  constructor
  · intro h
    have length := congrArg List.length h
    rw [length_clearAt] at length
    match bytes, length with
    | a' :: b' :: c' :: reserved :: rest', _ =>
      rw [cleared] at h
      cases h
      exact ⟨reserved, rfl⟩
  · rintro ⟨reserved, rfl⟩
    exact cleared a b c reserved rest

/-! ## Where the reserved bytes lie -/

mutual

/-- The reserved places in the data of a value: those in the records behind the count in front. -/
def Value.reserved : Value → List Nat
  | .record fields => (reservedInFields fields).map (4 + ·)
  | .records rs => (reservedInRecords rs).map (4 + ·)
  | _ => []

/-- The reserved places in the written form of a field: the last byte before the length, and those
in the data. -/
def Field.reserved : Field → List Nat
  | ⟨_, value⟩ => 3 :: value.reserved.map (8 + ·)

/-- The reserved places in the written forms of fields, one after the other. -/
def reservedInFields : List Field → List Nat
  | [] => []
  | f :: fs => f.reserved ++ (reservedInFields fs).map (f.encode.length + ·)

/-- The reserved places in records one after the other, each behind its length. -/
def reservedInRecords : List (List Field) → List Nat
  | [] => []
  | r :: rs => ((reservedInFields r).map (4 + ·)).map (4 + ·)
      ++ (reservedInRecords rs).map ((lengthFirst (Record.encode r)).length + ·)

end

/-- The reserved places in the written form of a record. -/
def Record.reserved (r : Record) : List Nat := (reservedInFields r).map (4 + ·)

mutual

/-- The reserved places of a value lie in its data. -/
theorem Value.lt_of_mem_reserved : (v : Value) → ∀ i ∈ v.reserved, i < v.data.length
  | .record fields => by
    intro i mem
    obtain ⟨j, inner, rfl⟩ := List.mem_map.mp mem
    have := lt_of_mem_reservedInFields fields j inner
    rw [data_record, length_record]
    omega
  | .records rs => by
    intro i mem
    obtain ⟨j, inner, rfl⟩ := List.mem_map.mp mem
    have := lt_of_mem_reservedInRecords rs j inner
    rw [data_records, List.length_append, length_count32]
    omega
  | .u8 _ | .u16 _ | .u32 _ | .u64 _ | .bool _ | .text _ | .bytes _ | .words _ | .texts _ =>
    fun _ mem => nomatch mem

/-- The reserved places of a field lie in its written form. -/
theorem Field.lt_of_mem_reserved : (f : Field) → ∀ i ∈ f.reserved, i < f.encode.length
  | ⟨tag, value⟩ => by
    intro i mem
    rw [length_field]
    rcases List.mem_cons.mp mem with rfl | mem
    · omega
    · obtain ⟨j, inner, rfl⟩ := List.mem_map.mp mem
      have := value.lt_of_mem_reserved j inner
      dsimp only
      omega

/-- The reserved places of fields lie in their written forms. -/
theorem lt_of_mem_reservedInFields :
    (fs : List Field) → ∀ i ∈ reservedInFields fs, i < (encodeFields fs).length
  | [] => fun _ mem => nomatch mem
  | f :: fs => by
    intro i mem
    rw [encodeFields_cons, List.length_append]
    rcases List.mem_append.mp mem with mem | mem
    · have := f.lt_of_mem_reserved i mem
      omega
    · obtain ⟨j, inner, rfl⟩ := List.mem_map.mp mem
      have := lt_of_mem_reservedInFields fs j inner
      omega

/-- The reserved places of records lie in their written forms. -/
theorem lt_of_mem_reservedInRecords :
    (rs : List (List Field)) → ∀ i ∈ reservedInRecords rs, i < (encodeRecords rs).length
  | [] => fun _ mem => nomatch mem
  | r :: rs => by
    intro i mem
    rw [encodeRecords_cons, List.length_append, length_lengthFirst, length_record]
    rcases List.mem_append.mp mem with mem | mem
    · obtain ⟨j, inner, rfl⟩ := List.mem_map.mp mem
      obtain ⟨k, innermost, rfl⟩ := List.mem_map.mp inner
      have := lt_of_mem_reservedInFields r k innermost
      omega
    · obtain ⟨j, inner, rfl⟩ := List.mem_map.mp mem
      have := lt_of_mem_reservedInRecords rs j inner
      rw [length_lengthFirst, length_record]
      omega

end

/-! ## What is written up to the reserved bytes -/

/-- The data is that of the value, up to the reserved bytes. -/
def Value.WrittenAs (v : Value) (data : Bytes) : Prop := clearAt v.reserved data = v.data

/-- The bytes are the written form of the field, up to the reserved ones. -/
def Field.WrittenAs (f : Field) (bytes : Bytes) : Prop := clearAt f.reserved bytes = f.encode

/-- The bytes are the written forms of the fields, up to the reserved ones. -/
def FieldsWrittenAs (fs : List Field) (bytes : Bytes) : Prop :=
  clearAt (reservedInFields fs) bytes = encodeFields fs

/-- The bytes are the records, each behind its length, up to the reserved ones. -/
def RecordsWrittenAs (rs : List Record) (bytes : Bytes) : Prop :=
  clearAt (reservedInRecords rs) bytes = encodeRecords rs

/-- The bytes are the written form of the record, up to the reserved ones. -/
def Record.WrittenAs (r : Record) (bytes : Bytes) : Prop := clearAt r.reserved bytes = r.encode

/-- Data is as long as that of the value it is written for. -/
theorem Value.WrittenAs.length {v : Value} {data : Bytes} (h : v.WrittenAs data) :
    data.length = v.data.length := by
  rw [← h, length_clearAt]

/-- Fields take the bytes of their written forms. -/
theorem FieldsWrittenAs.length {fs : List Field} {bytes : Bytes} (h : FieldsWrittenAs fs bytes) :
    bytes.length = (encodeFields fs).length := by
  rw [← h, length_clearAt]

/-- Records take the bytes of their written forms. -/
theorem RecordsWrittenAs.length {rs : List Record} {bytes : Bytes}
    (h : RecordsWrittenAs rs bytes) : bytes.length = (encodeRecords rs).length := by
  rw [← h, length_clearAt]

/-- A record takes the bytes of its written form. -/
theorem Record.WrittenAs.length {r : Record} {bytes : Bytes} (h : r.WrittenAs bytes) :
    bytes.length = r.encode.length := by
  rw [← h, length_clearAt]

/-- A value without records in it has no reserved bytes in its data. -/
theorem Value.writtenAs_iff_of_reserved_eq_nil {v : Value} {data : Bytes} (none : v.reserved = []) :
    v.WrittenAs data ↔ data = v.data := by
  rw [WrittenAs, none, clearAt_nil]

/-- The data of a nested record is what the record is written as. -/
theorem Value.writtenAs_record_iff {r : Record} {data : Bytes} :
    (Value.record r).WrittenAs data ↔ r.WrittenAs data := Iff.rfl

/-- The data of a record list is the count and the records. -/
theorem Value.writtenAs_records_iff {rs : List Record} {data : Bytes} :
    (Value.records rs).WrittenAs data ↔
      ∃ bytes, data = count32 rs.length ++ bytes ∧ RecordsWrittenAs rs bytes := by
  have size := length_count32 rs.length
  rw [Value.WrittenAs, Value.reserved, data_records, ← size, clearAt_eq_append_iff_of_front]
  rfl

/-- A record is its count and its fields. -/
theorem Record.writtenAs_iff {r : Record} {bytes : Bytes} :
    r.WrittenAs bytes ↔ ∃ body, bytes = count32 r.length ++ body ∧ FieldsWrittenAs r body := by
  have size := length_count32 r.length
  rw [Record.WrittenAs, Record.reserved, Record.encode, ← size, clearAt_eq_append_iff_of_front]
  rfl

/-- Nothing is written for no fields. -/
@[simp] theorem fieldsWrittenAs_nil {bytes : Bytes} : FieldsWrittenAs [] bytes ↔ bytes = [] := by
  rw [FieldsWrittenAs, reservedInFields, clearAt_nil, encodeFields_nil]

/-- Fields are written one after the other. -/
theorem fieldsWrittenAs_cons {f : Field} {fs : List Field} {bytes : Bytes} :
    FieldsWrittenAs (f :: fs) bytes ↔
      ∃ front behind, bytes = front ++ behind ∧ f.WrittenAs front ∧ FieldsWrittenAs fs behind := by
  rw [FieldsWrittenAs, reservedInFields, encodeFields_cons,
    clearAt_eq_append_iff f.lt_of_mem_reserved]
  rfl

/-- Nothing is written for no records. -/
@[simp] theorem recordsWrittenAs_nil {bytes : Bytes} :
    RecordsWrittenAs [] bytes ↔ bytes = [] := by
  rw [RecordsWrittenAs, reservedInRecords, clearAt_nil, encodeRecords_nil]

/-- Records are written one after the other, each behind its length. -/
theorem recordsWrittenAs_cons {r : Record} {rs : List Record} {bytes : Bytes} :
    RecordsWrittenAs (r :: rs) bytes ↔
      ∃ front behind, bytes = lengthFirst front ++ behind ∧ r.WrittenAs front ∧
        RecordsWrittenAs rs behind := by
  -- the length in front of a record is that of its written form, reserved bytes or not
  have first {front : Bytes} :
      clearAt ((Record.reserved r).map (4 + ·)) front = lengthFirst (Record.encode r) ↔
        ∃ written, front = lengthFirst written ∧ r.WrittenAs written := by
    have size := length_count32 (Record.encode r).length
    rw [lengthFirst, ← size, clearAt_eq_append_iff_of_front]
    constructor
    · rintro ⟨written, rfl, cleared⟩
      have length : written.length = (Record.encode r).length := Record.WrittenAs.length cleared
      exact ⟨written, by rw [lengthFirst, length], cleared⟩
    · rintro ⟨written, rfl, cleared⟩
      exact ⟨written, by rw [lengthFirst, cleared.length], cleared⟩
  rw [RecordsWrittenAs, reservedInRecords, encodeRecords_cons, clearAt_eq_append_iff]
  · constructor
    · rintro ⟨front, behind, rfl, cleared, rest⟩
      obtain ⟨written, rfl, record⟩ := first.mp cleared
      exact ⟨written, behind, rfl, record, rest⟩
    · rintro ⟨written, behind, rfl, record, rest⟩
      exact ⟨_, behind, rfl, first.mpr ⟨written, rfl, record⟩, rest⟩
  · intro i mem
    have inside := lt_of_mem_reservedInRecords [r] i (List.mem_append_left _ mem)
    rwa [encodeRecords_cons, encodeRecords_nil, List.append_nil] at inside

/-- A field is its header, with any reserved byte, and its data. -/
theorem Field.writtenAs_iff {tag : UInt16} {value : Value} {bytes : Bytes} :
    Field.WrittenAs ⟨tag, value⟩ bytes ↔
      ∃ reserved data, bytes = word16 tag ++ [value.kind.code, reserved] ++ lengthFirst data ∧
        value.WrittenAs data := by
  -- the header by its eight bytes, the fourth of which is the reserved one
  have header {front : Bytes} {length : Nat} :
      clearAt [3] front = word16 tag ++ [value.kind.code, 0] ++ count32 length ↔
        ∃ reserved, front = word16 tag ++ [value.kind.code, reserved] ++ count32 length :=
    clearAt_fourth_iff
  have size : (word16 tag ++ [value.kind.code, 0] ++ count32 value.data.length).length = 8 := by
    simp
  have parts : Field.encode ⟨tag, value⟩
      = (word16 tag ++ [value.kind.code, 0] ++ count32 value.data.length) ++ value.data := by
    rw [Field.encode, encodeField, lengthFirst, List.append_assoc _ _ value.data]
  have places : Field.reserved ⟨tag, value⟩ = [3] ++ value.reserved.map (8 + ·) := rfl
  rw [Field.WrittenAs, parts, places, ← size, clearAt_eq_append_iff]
  · constructor
    · rintro ⟨front, data, rfl, cleared, rest⟩
      obtain ⟨reserved, rfl⟩ := header.mp cleared
      have length : data.length = value.data.length := Value.WrittenAs.length rest
      refine ⟨reserved, data, ?_, rest⟩
      rw [lengthFirst, length, List.append_assoc _ _ data]
    · rintro ⟨reserved, data, rfl, written⟩
      refine ⟨_, data, ?_, header.mpr ⟨reserved, rfl⟩, written⟩
      rw [lengthFirst, written.length, List.append_assoc _ _ data]
  · intro i mem
    rw [List.mem_singleton.mp mem, size]
    decide

/-! ## The written form itself -/

mutual

/-- A value is written as its data. -/
theorem Value.writtenAs_data : (v : Value) → v.WrittenAs v.data
  | .record fields =>
    Record.writtenAs_iff.mpr ⟨encodeFields fields, rfl, fieldsWrittenAs_encodeFields fields⟩
  | .records rs =>
    Value.writtenAs_records_iff.mpr ⟨encodeRecords rs, rfl, recordsWrittenAs_encodeRecords rs⟩
  | .u8 _ | .u16 _ | .u32 _ | .u64 _ | .bool _ | .text _ | .bytes _ | .words _ | .texts _ =>
    (Value.writtenAs_iff_of_reserved_eq_nil rfl).mpr rfl

/-- Fields are written as their written forms. -/
theorem fieldsWrittenAs_encodeFields : (fs : List Field) → FieldsWrittenAs fs (encodeFields fs)
  | [] => fieldsWrittenAs_nil.mpr rfl
  | ⟨tag, value⟩ :: fs =>
    fieldsWrittenAs_cons.mpr ⟨Field.encode ⟨tag, value⟩, encodeFields fs, rfl,
      Field.writtenAs_iff.mpr ⟨0, value.data, rfl, value.writtenAs_data⟩,
      fieldsWrittenAs_encodeFields fs⟩

/-- Records are written as their written forms. -/
theorem recordsWrittenAs_encodeRecords :
    (rs : List (List Field)) → RecordsWrittenAs rs (encodeRecords rs)
  | [] => recordsWrittenAs_nil.mpr rfl
  | r :: rs =>
    recordsWrittenAs_cons.mpr ⟨Record.encode r, encodeRecords rs, rfl,
      Record.writtenAs_iff.mpr ⟨encodeFields r, rfl, fieldsWrittenAs_encodeFields r⟩,
      recordsWrittenAs_encodeRecords rs⟩

end

/-- A record is written as its written form: 0 stands where a byte is reserved. -/
theorem Record.writtenAs_encode (r : Record) : r.WrittenAs r.encode := (Value.record r).writtenAs_data

end ComputePlanner
