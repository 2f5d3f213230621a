import ComputePlanner.Proofs.Bytes.Cursor
import ComputePlanner.Proofs.Record.Reserved
import ComputePlanner.Proofs.Text.Canonical
import ComputePlanner.Record.Parse

/-! # What is read is what was written
A reader that succeeds has taken the written form of what it gave, up to the bytes that headers
reserve, and it succeeds on every such form. This is said of each part of a record, from the counts
up: the lists, the values of a kind, the fields, one level. Each statement is an equivalence, so it
serves both ways, and it says which bytes are taken, so that what stands behind a part goes on
from there.

The reader of one level is given the reader for the records nested in it, and a nested record is
shorter than the one around it. So everything about a level is proved for a nested reader that is
right about the buffers below a **limit** (`ReadsWritten`), and the depth of the nesting is an
induction on the limit.

Main definitions: **`Record.Fits`**. Main statement: **`Record.parse_eq_ok_iff`**. -/

namespace ComputePlanner

variable {c c' : Cursor}

/-! ## Counts, lengths and numbers -/

/-- A read within a record succeeds when the read does. -/
theorem reading_eq_ok_iff {α : Type} {read : Except ShortRead α} {a : α} :
    reading read = .ok a ↔ read = .ok a := mapError_eq_ok

/-- A read of a count takes its four bytes. -/
theorem count_eq_ok_iff {n : UInt32} :
    reading c.u32 = .ok (n, c') ↔ c.Took (count32 n.toNat) c' := by
  rw [reading_eq_ok_iff, Cursor.u32_eq_ok_iff]
  rfl

/-- A count in front of a buffer is read, if 32 bits hold it. -/
theorem exists_count {n : Nat} (small : n < 2 ^ 32) (body : Bytes) :
    ∃ count : UInt32, count.toNat = n ∧
      reading (Cursor.start (count32 n ++ body)).u32 = .ok (count, ⟨4, body⟩) := by
  have number : (UInt32.ofNat n).toNat = n := UInt32.toNat_ofNat_of_lt' small
  refine ⟨UInt32.ofNat n, number, count_eq_ok_iff.mpr ?_⟩
  rw [number]
  exact ⟨rfl, by rw [length_count32]; rfl⟩

/-- A read of data behind its length takes both. 32 bits hold a length that was read. -/
theorem chunk_eq_ok_iff {data : Bytes} :
    reading c.chunk = .ok (data, c') ↔ data.length < 2 ^ 32 ∧ c.Took (lengthFirst data) c' := by
  rw [reading_eq_ok_iff, Cursor.chunk, bind_eq_ok, lengthFirst, Cursor.took_append]
  constructor
  · rintro ⟨⟨n, mid⟩, first, next⟩
    obtain ⟨length, behind⟩ := Cursor.take_eq_ok_iff.mp next
    have front : c.Took (word32 n) mid := Cursor.u32_eq_ok_iff.mp first
    have small := n.toNat_lt
    refine ⟨by omega, mid, ?_, behind⟩
    rw [length]
    exact front
  · rintro ⟨small, mid, front, behind⟩
    have written : word32 (UInt32.ofNat data.length) = count32 data.length := by
      rw [word32, UInt32.toNat_ofNat_of_lt' small, count32]
    refine ⟨(UInt32.ofNat data.length, mid), ?_, ?_⟩
    · rw [← written] at front
      exact Cursor.u32_eq_ok_iff.mpr front
    · refine Cursor.take_eq_ok_iff.mpr ⟨?_, behind⟩
      rw [UInt32.toNat_ofNat_of_lt' small]

/-- Data of a fixed width is that of the number it is read as. -/
theorem parseFixed_eq_ok_iff {tag : UInt16} {kind : Kind} {width n : Nat} {data : Bytes} :
    parseFixed tag kind width data = .ok n ↔ n < 256 ^ width ∧ data = littleEndian width n := by
  unfold parseFixed
  constructor
  · intro read
    split at read
    · next length =>
      cases read
      subst length
      exact ⟨ofLittleEndian_lt data, (littleEndian_ofLittleEndian data).symm⟩
    · cases read
  · rintro ⟨below, rfl⟩
    rw [if_pos (length_littleEndian width n), ofLittleEndian_littleEndian, Nat.mod_eq_of_lt below]

/-- A kind is the only one with its code. -/
theorem Kind.ofCode?_eq_some_iff {code : UInt8} {kind : Kind} :
    Kind.ofCode? code = some kind ↔ code = kind.code := by
  constructor
  · intro found
    unfold ofCode? at found
    rw [← UInt8.toNat_inj]
    split at found <;> cases found <;> assumption
  · rintro rfl
    exact ofCode?_code kind

/-! ## Lists -/

/-- Words are read back. -/
theorem parseWords_flatMap (vs : List UInt32) :
    parseWords vs.length (vs.flatMap word32) = vs := by
  induction vs with
  | nil => rfl
  | cons v vs ih =>
    have front : (word32 v ++ vs.flatMap word32).take 4 = word32 v := by
      rw [List.take_append_of_le_length (by simp), List.take_of_length_le (by simp)]
    have behind : (word32 v ++ vs.flatMap word32).drop 4 = vs.flatMap word32 := by
      rw [List.drop_append_of_le_length (by simp), List.drop_of_length_le (by simp),
        List.nil_append]
    have below : v.toNat < 256 ^ 4 := v.toNat_lt
    have value : UInt32.ofNat (ofLittleEndian (word32 v)) = v := by
      rw [word32, ofLittleEndian_littleEndian, Nat.mod_eq_of_lt below, UInt32.ofNat_toNat]
    rw [List.flatMap_cons, List.length_cons, parseWords, front, behind, value, ih]

/-- Four bytes for each word are the words that are read from them. -/
theorem exists_words {n : Nat} {data : Bytes} (length : data.length = 4 * n) :
    ∃ vs : List UInt32, vs.length = n ∧ data = vs.flatMap word32 := by
  induction n generalizing data with
  | zero =>
    refine ⟨[], rfl, ?_⟩
    rw [List.flatMap_nil]
    exact List.eq_nil_of_length_eq_zero length
  | succ n ih =>
    obtain ⟨vs, count, behind⟩ := @ih (data.drop 4) (by rw [List.length_drop]; omega)
    have four : (data.take 4).length = 4 := List.length_take_of_le (by omega)
    have below : ofLittleEndian (data.take 4) < 2 ^ 32 := by
      have := ofLittleEndian_lt (data.take 4)
      rwa [four] at this
    refine ⟨UInt32.ofNat (ofLittleEndian (data.take 4)) :: vs, by rw [List.length_cons, count], ?_⟩
    have front : word32 (UInt32.ofNat (ofLittleEndian (data.take 4))) = data.take 4 := by
      rw [word32, UInt32.toNat_ofNat_of_lt' below]
      have digits := littleEndian_ofLittleEndian (data.take 4)
      rwa [four] at digits
    rw [List.flatMap_cons, front, ← behind, List.take_append_drop]

/-- A read of texts takes them, each behind its length. -/
theorem parseTexts_eq_ok_iff {tag : UInt16} {n : Nat} {ss : List String}
    (small : c.rest.length < 2 ^ 32) :
    parseTexts tag n c = .ok (ss, c') ↔
      ss.length = n ∧ c.Took (ss.flatMap fun s => lengthFirst (Utf8.encode s)) c' := by
  induction n generalizing c ss with
  | zero =>
    rw [parseTexts]
    constructor
    · rintro ⟨⟩
      exact ⟨rfl, Cursor.took_nil.mpr rfl⟩
    · rintro ⟨none, took⟩
      obtain rfl := List.eq_nil_of_length_eq_zero none
      rw [Cursor.took_nil.mp took]
  | succ n ih =>
    rw [parseTexts, bind_eq_ok]
    constructor
    · rintro ⟨⟨data, mid⟩, chunk, rest⟩
      obtain ⟨s, text, rest⟩ := bind_eq_ok.mp rest
      obtain ⟨⟨ss', last⟩, texts, done⟩ := bind_eq_ok.mp rest
      cases done
      obtain ⟨-, front⟩ := chunk_eq_ok_iff.mp chunk
      obtain rfl := Utf8.decode_eq_ok_iff.mp (mapError_eq_ok.mp text)
      have size := front.length
      obtain ⟨rfl, behind⟩ := (ih (by omega)).mp texts
      exact ⟨rfl, Cursor.took_append.mpr ⟨mid, front, behind⟩⟩
    · rintro ⟨length, took⟩
      obtain ⟨s, ss, rfl⟩ := List.exists_cons_of_length_eq_add_one length
      rw [List.length_cons, Nat.add_right_cancel_iff] at length
      obtain ⟨mid, front, behind⟩ := Cursor.took_append.mp took
      have size := front.length
      rw [length_lengthFirst] at size
      refine ⟨(Utf8.encode s, mid), chunk_eq_ok_iff.mpr ⟨by omega, front⟩, ?_⟩
      dsimp only
      rw [Utf8.decode_encode, mapError_ok, ok_bind, (ih (by omega)).mpr ⟨length, behind⟩]
      rfl

/-! ## One level of a record -/

/-- On buffers shorter than `limit`, `nested` gives what they are the written form of. -/
def ReadsWritten (nested : Bytes → Except RecordFault Record) (limit : Nat) : Prop :=
  ∀ data r, data.length < limit → data.length < 2 ^ 32 → (nested data = .ok r ↔ r.WrittenAs data)

section Level

variable {nested : Bytes → Except RecordFault Record} {limit : Nat}

/-- A read of records takes them, each behind its length. -/
theorem parseRecords_eq_ok_iff (reads : ReadsWritten nested limit) {n : Nat} {rs : List Record}
    (bound : c.rest.length ≤ limit) (small : c.rest.length < 2 ^ 32) :
    parseRecords nested n c = .ok (rs, c') ↔
      rs.length = n ∧ ∃ bytes, RecordsWrittenAs rs bytes ∧ c.Took bytes c' := by
  induction n generalizing c rs with
  | zero =>
    rw [parseRecords]
    constructor
    · rintro ⟨⟩
      exact ⟨rfl, [], recordsWrittenAs_nil.mpr rfl, Cursor.took_nil.mpr rfl⟩
    · rintro ⟨none, bytes, written, took⟩
      obtain rfl := List.eq_nil_of_length_eq_zero none
      obtain rfl := recordsWrittenAs_nil.mp written
      rw [Cursor.took_nil.mp took]
  | succ n ih =>
    rw [parseRecords, bind_eq_ok]
    constructor
    · rintro ⟨⟨data, mid⟩, chunk, rest⟩
      obtain ⟨r, record, rest⟩ := bind_eq_ok.mp rest
      obtain ⟨⟨rs', last⟩, records, done⟩ := bind_eq_ok.mp rest
      cases done
      obtain ⟨-, front⟩ := chunk_eq_ok_iff.mp chunk
      have size := front.length
      rw [length_lengthFirst] at size
      have first : r.WrittenAs data := (reads data r (by omega) (by omega)).mp record
      obtain ⟨rfl, bytes, written, behind⟩ := (ih (by omega) (by omega)).mp records
      exact ⟨rfl, lengthFirst data ++ bytes,
        recordsWrittenAs_cons.mpr ⟨data, bytes, rfl, first, written⟩,
        Cursor.took_append.mpr ⟨mid, front, behind⟩⟩
    · rintro ⟨length, bytes, written, took⟩
      obtain ⟨r, rs, rfl⟩ := List.exists_cons_of_length_eq_add_one length
      rw [List.length_cons, Nat.add_right_cancel_iff] at length
      obtain ⟨data, bytes, rfl, first, written⟩ := recordsWrittenAs_cons.mp written
      obtain ⟨mid, front, behind⟩ := Cursor.took_append.mp took
      have size := front.length
      rw [length_lengthFirst] at size
      refine ⟨(data, mid), chunk_eq_ok_iff.mpr ⟨by omega, front⟩, ?_⟩
      have record : nested data = .ok r := (reads data r (by omega) (by omega)).mpr first
      have records := (ih (by omega) (by omega)).mpr ⟨length, bytes, written, behind⟩
      dsimp only
      rw [record, ok_bind, records]
      rfl

/-- The reader of values gives values of the kind it is asked for. -/
theorem kind_of_parseValue {tag : UInt16} {kind : Kind} {data : Bytes} {v : Value}
    (read : parseValue nested tag kind data = .ok v) : v.kind = kind := by
  cases kind with
  | u8 | u16 | u32 | u64 | text | record =>
    obtain ⟨_, _, last⟩ := bind_eq_ok.mp read
    cases last
    rfl
  | bool =>
    obtain ⟨n, -, rest⟩ := bind_eq_ok.mp read
    split at rest
    · cases rest
      rfl
    · cases rest
  | bytes =>
    cases read
    rfl
  | words =>
    obtain ⟨⟨n, mid⟩, -, rest⟩ := bind_eq_ok.mp read
    dsimp only at rest
    split at rest
    · cases rest
      rfl
    · cases rest
  | texts | records =>
    obtain ⟨⟨n, mid⟩, -, rest⟩ := bind_eq_ok.mp read
    obtain ⟨⟨elements, behind⟩, -, rest⟩ := bind_eq_ok.mp rest
    obtain ⟨_, _, last⟩ := bind_eq_ok.mp rest
    cases last
    rfl

/-- A word is read from the bytes of its number. -/
theorem word_eq_ok_iff {α : Type} {wrap : α → Value} {ofNat : Nat → α} {toNat : α → Nat}
    {width : Nat} (injective : ∀ {x y}, wrap x = wrap y → x = y)
    (ofNat_toNat : ∀ x, ofNat (toNat x) = x)
    (toNat_ofNat : ∀ n < 256 ^ width, toNat (ofNat n) = n) (below : ∀ x, toNat x < 256 ^ width)
    {tag : UInt16} {kind : Kind} {data : Bytes} (x : α) :
    (do return wrap (ofNat (← parseFixed tag kind width data))) = .ok (wrap x) ↔
      data = littleEndian width (toNat x) := by
  rw [bind_eq_ok]
  constructor
  · rintro ⟨n, read, last⟩
    obtain ⟨small, rfl⟩ := parseFixed_eq_ok_iff.mp read
    obtain rfl := injective (Except.ok.inj last)
    rw [toNat_ofNat n small]
  · rintro rfl
    refine ⟨toNat x, parseFixed_eq_ok_iff.mpr ⟨below x, rfl⟩, ?_⟩
    rw [ofNat_toNat]
    rfl

/-- A flag is read from a byte that is 0 or 1. -/
theorem parseValue_bool_eq_ok_iff {tag : UInt16} {data : Bytes} {b : Bool} :
    parseValue nested tag .bool data = .ok (.bool b) ↔ data = [flagByte b] := by
  rw [parseValue, bind_eq_ok]
  constructor
  · rintro ⟨n, read, rest⟩
    obtain ⟨-, rfl⟩ := parseFixed_eq_ok_iff.mp read
    split at rest
    · next small =>
      cases rest
      match n, small with
      | 0, _ | 1, _ => rfl
    · cases rest
  · rintro rfl
    refine ⟨(flagByte b).toNat, rfl, ?_⟩
    cases b <;> rfl

/-- Words are read from data that they fill behind their count. -/
theorem parseValue_words_eq_ok_iff {tag : UInt16} {data : Bytes} (small : data.length < 2 ^ 32)
    {vs : List UInt32} :
    parseValue nested tag .words data = .ok (.words vs) ↔
      data = count32 vs.length ++ vs.flatMap word32 := by
  rw [parseValue, bind_eq_ok]
  constructor
  · rintro ⟨⟨n, mid⟩, count, rest⟩
    dsimp only at rest
    split at rest
    · next length =>
      rw [Nat.mul_comm] at length
      obtain ⟨vs', number, words⟩ := exists_words length
      rw [words, ← number, parseWords_flatMap] at rest
      cases rest
      rw [number, ← words]
      exact (count_eq_ok_iff.mp count).bytes
    · cases rest
  · rintro rfl
    have length := length_words vs
    rw [List.length_append, length_count32] at small
    obtain ⟨n, number, count⟩ := @exists_count vs.length (by omega) (vs.flatMap word32)
    refine ⟨_, count, ?_⟩
    dsimp only
    rw [number, Cursor.remaining, length, if_pos (Nat.mul_comm ..), parseWords_flatMap]
    rfl

/-- A list ends where nothing is left. -/
theorem endOfList_eq_ok_iff {tag : UInt16} : endOfList tag c = .ok () ↔ c.remaining = 0 := by
  rw [endOfList]
  split <;> simpa

/-- A list is read from data that its elements fill behind their count. -/
theorem list_eq_ok_iff {α : Type} (Written : List α → Bytes → Prop) {wrap : List α → Value}
    (injective : ∀ {xs ys}, wrap xs = wrap ys → xs = ys)
    {elements : Nat → Cursor → Except RecordFault (List α × Cursor)} {data : Bytes}
    (reads : ∀ {n c c' xs}, c.rest.length < data.length →
      (elements n c = .ok (xs, c') ↔ xs.length = n ∧ ∃ bytes, Written xs bytes ∧ c.Took bytes c'))
    (room : ∀ {xs bytes}, Written xs bytes → 4 * xs.length ≤ bytes.length)
    (small : data.length < 2 ^ 32) {tag : UInt16} {xs : List α} :
    (do let (n, c) ← reading (Cursor.start data).u32
        let (xs, c) ← elements n.toNat c
        endOfList tag c
        return wrap xs) = .ok (wrap xs) ↔
      ∃ bytes, data = count32 xs.length ++ bytes ∧ Written xs bytes := by
  rw [bind_eq_ok]
  constructor
  · rintro ⟨⟨n, mid⟩, count, rest⟩
    obtain ⟨⟨xs', last⟩, list, rest⟩ := bind_eq_ok.mp rest
    obtain ⟨⟨⟩, ends, done⟩ := bind_eq_ok.mp rest
    obtain rfl := injective (Except.ok.inj done)
    have front := count_eq_ok_iff.mp count
    have size := front.length
    rw [length_count32] at size
    have shorter : mid.rest.length < data.length := by
      have : (Cursor.start data).rest.length = data.length := rfl
      omega
    obtain ⟨length, bytes, written, behind⟩ := (reads shorter).mp list
    refine ⟨bytes, ?_, written⟩
    rw [length]
    exact (Cursor.took_append.mpr ⟨mid, front, behind⟩).eq_of_empty (endOfList_eq_ok_iff.mp ends)
  · rintro ⟨bytes, rfl, written⟩
    have enough := room written
    have size : (count32 xs.length ++ bytes).length = 4 + bytes.length := by
      rw [List.length_append, length_count32]
    obtain ⟨n, number, count⟩ := @exists_count xs.length (by omega) bytes
    have list : elements xs.length ⟨4, bytes⟩ = .ok (xs, ⟨4 + bytes.length, []⟩) :=
      (reads (by dsimp only; omega)).mpr
        ⟨rfl, bytes, written, (List.append_nil bytes).symm, rfl⟩
    refine ⟨_, count, ?_⟩
    dsimp only
    rw [number, list]
    rfl

/-- **A value is read from the data it is written as**, under its kind. -/
theorem parseValue_eq_ok_iff (reads : ReadsWritten nested limit) {tag : UInt16} {kind : Kind}
    {data : Bytes} (bound : data.length < limit) (small : data.length < 2 ^ 32) {v : Value} :
    parseValue nested tag kind data = .ok v ↔ v.kind = kind ∧ v.WrittenAs data := by
  suffices own : parseValue nested tag v.kind data = .ok v ↔ v.WrittenAs data by
    constructor
    · intro read
      obtain rfl := kind_of_parseValue read
      exact ⟨rfl, own.mp read⟩
    · rintro ⟨rfl, written⟩
      exact own.mpr written
  have plain (none : v.reserved = []) : v.WrittenAs data ↔ data = v.data :=
    Value.writtenAs_iff_of_reserved_eq_nil none
  cases v with
  | u8 x =>
    have byte : [x] = littleEndian 1 x.toNat := by
      rw [littleEndian, littleEndian, UInt8.ofNat_toNat]
    rw [plain rfl, Value.data, byte]
    exact word_eq_ok_iff Value.u8.inj (fun _ => UInt8.ofNat_toNat)
      (fun _ => UInt8.toNat_ofNat_of_lt') UInt8.toNat_lt x
  | u16 x =>
    rw [plain rfl]
    exact word_eq_ok_iff Value.u16.inj (fun _ => UInt16.ofNat_toNat)
      (fun _ => UInt16.toNat_ofNat_of_lt') UInt16.toNat_lt x
  | u32 x =>
    rw [plain rfl]
    exact word_eq_ok_iff Value.u32.inj (fun _ => UInt32.ofNat_toNat)
      (fun _ => UInt32.toNat_ofNat_of_lt') UInt32.toNat_lt x
  | u64 x =>
    rw [plain rfl]
    exact word_eq_ok_iff Value.u64.inj (fun _ => UInt64.ofNat_toNat)
      (fun _ => UInt64.toNat_ofNat_of_lt') UInt64.toNat_lt x
  | bool b =>
    rw [plain rfl]
    exact parseValue_bool_eq_ok_iff
  | text s =>
    rw [plain rfl, Value.kind, parseValue, bind_eq_ok]
    constructor
    · rintro ⟨s', text, last⟩
      cases last
      exact Utf8.decode_eq_ok_iff.mp (mapError_eq_ok.mp text)
    · intro written
      exact ⟨s, mapError_eq_ok.mpr (Utf8.decode_eq_ok_iff.mpr written), rfl⟩
  | bytes b =>
    rw [plain rfl]
    constructor
    · rintro ⟨⟩
      rfl
    · rintro rfl
      rfl
  | words vs =>
    rw [plain rfl]
    exact parseValue_words_eq_ok_iff small
  | texts ss =>
    rw [plain rfl, Value.kind, parseValue]
    refine (list_eq_ok_iff (fun ss bytes => bytes = ss.flatMap fun s => lengthFirst (Utf8.encode s))
      Value.texts.inj (fun shorter => ?_) ?_ small).trans ?_
    · rw [parseTexts_eq_ok_iff (by omega), exists_eq_left]
    · rintro ss bytes rfl
      exact length_texts ss
    · rw [exists_eq_right]
      rfl
  | record r =>
    rw [Value.writtenAs_record_iff, ← reads data r bound small, Value.kind, parseValue, bind_eq_ok]
    constructor
    · rintro ⟨r', read, last⟩
      cases last
      exact read
    · intro read
      exact ⟨r, read, rfl⟩
  | records rs =>
    rw [Value.writtenAs_records_iff, Value.kind, parseValue]
    refine list_eq_ok_iff RecordsWrittenAs Value.records.inj (fun shorter => ?_) (fun written => ?_)
      small
    · exact parseRecords_eq_ok_iff reads (by omega) (by omega)
    · rw [written.length]
      exact length_encodeRecords _

/-- A field is read where it is written, if 32 bits hold the length of its data. -/
theorem parseField_eq_ok_iff (reads : ReadsWritten nested limit) (bound : c.rest.length ≤ limit)
    {f : Field} :
    parseField nested c = .ok (f, c') ↔
      f.value.data.length < 2 ^ 32 ∧ ∃ bytes, f.WrittenAs bytes ∧ c.Took bytes c' := by
  obtain ⟨tag, value⟩ := f
  -- the parts of a field in the order in which they are read
  have parts {reserved : UInt8} {data : Bytes} :
      c.Took (word16 tag ++ [value.kind.code, reserved] ++ lengthFirst data) c' ↔
        ∃ c₁, c.Took (word16 tag) c₁ ∧ ∃ c₂, c₁.Took [value.kind.code] c₂ ∧
          ∃ c₃, c₂.Took [reserved] c₃ ∧ c₃.Took (lengthFirst data) c' := by
    have bytes : word16 tag ++ [value.kind.code, reserved] ++ lengthFirst data
        = word16 tag ++ ([value.kind.code] ++ ([reserved] ++ lengthFirst data)) :=
      List.append_assoc ..
    simp only [bytes, Cursor.took_append]
  have shorter {c₁ c₂ c₃ : Cursor} {code reserved : UInt8} {data : Bytes}
      (first : c.Took (word16 tag) c₁) (second : c₁.Took [code] c₂) (third : c₂.Took [reserved] c₃)
      (fourth : c₃.Took (lengthFirst data) c') : data.length < limit := by
    have sizes := And.intro first.length (And.intro second.length
      (And.intro third.length fourth.length))
    simp only [length_lengthFirst, List.length_singleton] at sizes
    omega
  rw [parseField, bind_eq_ok]
  constructor
  · rintro ⟨⟨tag', c₁⟩, first, rest⟩
    obtain ⟨⟨code, c₂⟩, second, rest⟩ := bind_eq_ok.mp rest
    dsimp only at rest
    split at rest
    · cases rest
    · next kind found =>
      obtain ⟨⟨reserved, c₃⟩, third, rest⟩ := bind_eq_ok.mp rest
      obtain ⟨⟨data, c₄⟩, fourth, rest⟩ := bind_eq_ok.mp rest
      obtain ⟨value', last, done⟩ := bind_eq_ok.mp rest
      cases done
      obtain rfl := Kind.ofCode?_eq_some_iff.mp found
      rw [reading_eq_ok_iff, Cursor.u16_eq_ok_iff] at first
      rw [reading_eq_ok_iff, Cursor.byte_eq_ok_iff] at second third
      obtain ⟨small, fourth⟩ := chunk_eq_ok_iff.mp fourth
      have bound := shorter first second third fourth
      obtain ⟨rfl, written⟩ := (parseValue_eq_ok_iff reads bound small).mp last
      exact ⟨written.length ▸ small, _, Field.writtenAs_iff.mpr ⟨reserved, data, rfl, written⟩,
        parts.mpr ⟨c₁, first, c₂, second, c₃, third, fourth⟩⟩
  · rintro ⟨small, bytes, written, took⟩
    obtain ⟨reserved, data, rfl, inner⟩ := Field.writtenAs_iff.mp written
    obtain ⟨c₁, first, c₂, second, c₃, third, fourth⟩ := parts.mp took
    have bound := shorter first second third fourth
    have small : data.length < 2 ^ 32 := inner.length ▸ small
    have last : parseValue nested tag value.kind data = .ok value :=
      (parseValue_eq_ok_iff reads bound small).mpr ⟨rfl, inner⟩
    refine ⟨(tag, c₁), reading_eq_ok_iff.mpr (Cursor.u16_eq_ok_iff.mpr first), ?_⟩
    refine bind_eq_ok.mpr ⟨(value.kind.code, c₂),
      reading_eq_ok_iff.mpr (Cursor.byte_eq_ok_iff.mpr second), ?_⟩
    dsimp only
    rw [Kind.ofCode?_code]
    refine bind_eq_ok.mpr ⟨(reserved, c₃),
      reading_eq_ok_iff.mpr (Cursor.byte_eq_ok_iff.mpr third), ?_⟩
    exact bind_eq_ok.mpr ⟨(data, c'), chunk_eq_ok_iff.mpr ⟨small, fourth⟩,
      bind_eq_ok.mpr ⟨value, last, rfl⟩⟩

/-- Fields are read where they are written, one after the other. -/
theorem parseFields_eq_ok_iff (reads : ReadsWritten nested limit) {n : Nat} {fs : List Field}
    (bound : c.rest.length ≤ limit) :
    parseFields nested n c = .ok (fs, c') ↔
      fs.length = n ∧ (∀ f ∈ fs, f.value.data.length < 2 ^ 32) ∧
        ∃ bytes, FieldsWrittenAs fs bytes ∧ c.Took bytes c' := by
  induction n generalizing c fs with
  | zero =>
    rw [parseFields]
    constructor
    · rintro ⟨⟩
      exact ⟨rfl, List.forall_mem_nil _, [], fieldsWrittenAs_nil.mpr rfl, Cursor.took_nil.mpr rfl⟩
    · rintro ⟨none, -, bytes, written, took⟩
      obtain rfl := List.eq_nil_of_length_eq_zero none
      obtain rfl := fieldsWrittenAs_nil.mp written
      rw [Cursor.took_nil.mp took]
  | succ n ih =>
    rw [parseFields, bind_eq_ok]
    constructor
    · rintro ⟨⟨f, mid⟩, field, rest⟩
      obtain ⟨⟨fs', last⟩, fields, done⟩ := bind_eq_ok.mp rest
      cases done
      obtain ⟨small, front, first, took⟩ := (parseField_eq_ok_iff reads bound).mp field
      have size := took.length
      obtain ⟨rfl, fit, behind, written, next⟩ := (ih (by omega)).mp fields
      exact ⟨rfl, List.forall_mem_cons.mpr ⟨small, fit⟩, front ++ behind,
        fieldsWrittenAs_cons.mpr ⟨front, behind, rfl, first, written⟩,
        Cursor.took_append.mpr ⟨mid, took, next⟩⟩
    · rintro ⟨length, fit, bytes, written, took⟩
      obtain ⟨f, fs, rfl⟩ := List.exists_cons_of_length_eq_add_one length
      rw [List.length_cons, Nat.add_right_cancel_iff] at length
      obtain ⟨small, fit⟩ := List.forall_mem_cons.mp fit
      obtain ⟨front, behind, rfl, first, written⟩ := fieldsWrittenAs_cons.mp written
      obtain ⟨mid, took, next⟩ := Cursor.took_append.mp took
      have size := took.length
      have field := (parseField_eq_ok_iff reads bound).mpr ⟨small, front, first, took⟩
      have fields := (ih (by omega)).mpr ⟨length, fit, behind, written, next⟩
      refine ⟨(f, mid), field, ?_⟩
      dsimp only
      rw [fields]
      rfl

end Level

/-! ## Whole records -/

/-- A record **fits** if 32 bits hold its field count and the length of each field's data. Counts
and lengths further in are smaller than the length of the data they stand in. -/
structure Record.Fits (r : Record) : Prop where
  count : r.length < 2 ^ 32
  data : ∀ f ∈ r, f.value.data.length < 2 ^ 32

/-- A record fits if 32 bits hold the length of its written form. -/
theorem Record.fits_of_length_lt {r : Record} (h : r.encode.length < 2 ^ 32) : r.Fits where
  count := by
    have := length_record r
    have := length_encodeFields r
    omega
  data f hf := by
    have := length_record r
    have := length_data_le hf
    omega

/-- One level is read from the buffers that it is written as. A count that was written is never
taken for a false one, since every field takes at least its header. -/
theorem parseLevel_eq_ok_iff {nested : Bytes → Except RecordFault Record} {limit : Nat}
    (reads : ReadsWritten nested limit) {buf : Bytes} (bound : buf.length ≤ limit) {r : Record} :
    parseLevel nested buf = .ok r ↔ r.Fits ∧ r.WrittenAs buf := by
  rw [parseLevel, bind_eq_ok, Record.writtenAs_iff]
  constructor
  · rintro ⟨⟨n, mid⟩, count, rest⟩
    dsimp only at rest
    split at rest
    · cases rest
    · obtain ⟨⟨fields, last⟩, read, rest⟩ := bind_eq_ok.mp rest
      dsimp only at rest
      split at rest
      · next ends =>
        cases rest
        have front := count_eq_ok_iff.mp count
        have shorter : mid.rest.length ≤ limit := by
          have : (Cursor.start buf).rest.length = buf.length := rfl
          have := front.length
          omega
        obtain ⟨length, fit, bytes, written, behind⟩ := (parseFields_eq_ok_iff reads shorter).mp read
        refine ⟨⟨length ▸ n.toNat_lt, fit⟩, bytes, ?_, written⟩
        rw [length]
        exact (Cursor.took_append.mpr ⟨mid, front, behind⟩).eq_of_empty ends
      · cases rest
  · rintro ⟨fits, body, rfl, written⟩
    have room := length_encodeFields r
    rw [← written.length] at room
    -- the reader refuses more fields than there are headers in what is left
    have enough : ¬ body.length / fieldHeaderSize < r.length := by
      rw [fieldHeaderSize]
      omega
    rw [List.length_append, length_count32] at bound
    obtain ⟨n, number, count⟩ := exists_count fits.count body
    have fields : parseFields nested r.length ⟨4, body⟩ = .ok (r, ⟨4 + body.length, []⟩) :=
      (parseFields_eq_ok_iff reads (by dsimp only; omega)).mpr
        ⟨rfl, fits.data, body, written, (List.append_nil body).symm, rfl⟩
    refine ⟨_, count, ?_⟩
    dsimp only
    rw [number, Cursor.remaining, if_neg enough, fields]
    rfl

/-- A record is read from the buffers that it is written as, if the nesting may be as deep as they
are long. -/
theorem parseWithin_eq_ok_iff {depth : Nat} {buf : Bytes} (deep : buf.length ≤ depth) {r : Record} :
    parseWithin depth buf = .ok r ↔ r.Fits ∧ r.WrittenAs buf := by
  induction depth generalizing buf r with
  | zero =>
    refine iff_of_false nofun fun ⟨_, written⟩ => ?_
    have size := written.length
    rw [length_record] at size
    omega
  | succ depth ih =>
    -- a nested record lies in a field's data, which is shorter than `buf`
    have reads : ReadsWritten (parseWithin depth) (depth + 1) := by
      intro data r' bound small
      rw [ih (by omega), and_iff_right_iff_imp]
      intro written
      exact Record.fits_of_length_lt (written.length ▸ small)
    exact parseLevel_eq_ok_iff reads deep

/-- **A buffer is read as a record exactly when it is what the record is written as**, up to the
reserved bytes, and the record fits. -/
theorem Record.parse_eq_ok_iff {buf : Bytes} {r : Record} :
    Record.parse buf = .ok r ↔ r.Fits ∧ r.WrittenAs buf :=
  parseWithin_eq_ok_iff (Nat.le_refl _)

/-- The same at any depth of nesting: the reader of values reads what is written. -/
theorem Record.parseValue_eq_ok_iff {tag : UInt16} {kind : Kind} {data : Bytes}
    (small : data.length < 2 ^ 32) {v : Value} :
    parseValue Record.parse tag kind data = .ok v ↔ v.kind = kind ∧ v.WrittenAs data := by
  refine ComputePlanner.parseValue_eq_ok_iff (fun data r bound small => ?_) (Nat.lt_succ_self _) small
  rw [Record.parse_eq_ok_iff, and_iff_right_iff_imp]
  intro written
  exact Record.fits_of_length_lt (written.length ▸ small)

end ComputePlanner
