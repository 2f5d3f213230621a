import ComputePlanner.Proofs.Record.RoundTrip
import Mathlib.Data.List.Infix

/-! # What is accepted as a record
A buffer is accepted exactly when it is the written form of a record, whatever stands in the bytes
that headers reserve. The record is the only one, and writing it again clears these bytes. Whoever
asks it for its fields gets an answer at every depth: the value of the first field with the tag, or
the value for an absent one, or a fault if the field has another kind. There is no other fault left,
since the data of every field has been read under its kind when the record was accepted
(`Record.exists_data`).

Main definition: **`Record.Answers`**. Main statement: **`Record.parse_accepts`**. -/

namespace ComputePlanner

namespace Record

/-! ## Fields by tag -/

/-- The first field with the tag has the value. -/
def First (r : Record) (tag : UInt16) (v : Value) : Prop :=
  ∃ before after, r = before ++ ⟨tag, v⟩ :: after ∧ tag ∉ before.map (·.tag)

/-- The value that answers to a tag is that of the first field with it. -/
theorem get?_eq_some_iff_first {r : Record} {tag : UInt16} {v : Value} :
    r.get? tag = some v ↔ r.First tag v := by
  have apart {before : List Field} :
      (∀ f ∈ before, !(f.tag == tag)) ↔ tag ∉ before.map (·.tag) := by
    simp only [List.mem_map, not_exists, not_and, Bool.not_eq_true', beq_eq_false_iff_ne, ne_eq]
  rw [get?, Option.map_eq_some_iff]
  constructor
  · rintro ⟨⟨tag', v'⟩, found, rfl⟩
    obtain ⟨same, before, after, rfl, none⟩ := List.find?_eq_some_iff_append.mp found
    obtain rfl := eq_of_beq same
    exact ⟨before, after, rfl, apart.mp none⟩
  · rintro ⟨before, after, rfl, none⟩
    refine ⟨⟨tag, v⟩, List.find?_eq_some_iff_append.mpr ?_, rfl⟩
    exact ⟨beq_self_eq_true tag, before, after, rfl, apart.mpr none⟩

/-- Nothing answers to a tag that is absent. -/
theorem get?_eq_none_iff {r : Record} {tag : UInt16} :
    r.get? tag = none ↔ tag ∉ r.map (·.tag) := by
  rw [get?, Option.map_eq_none_iff, List.find?_eq_none]
  simp only [List.mem_map, not_exists, not_and, beq_iff_eq]

/-! ## The answers -/

/-- The answer to a request for a field by tag and kind, where `wrap` makes the values of the kind
and `given` says what is given for them. -/
structure Answers {α β : Type} (kind : Kind) (wrap : α → Value) (given : α → β) (default : β)
    (r : Record) (tag : UInt16) (answer : Except RecordFault β) : Prop where
  /-- A tag that is absent answers with the default. -/
  absent : tag ∉ r.map (·.tag) → answer = .ok default
  /-- The fault is that the first field with the tag has another kind, and there is no other. -/
  fault : ∀ e, answer = .error e ↔
    ∃ v, r.First tag v ∧ v.kind ≠ kind ∧ e = .wrongKind tag kind v.kind
  /-- A first field of the kind answers with its value. -/
  value : ∀ v, r.First tag v → v.kind = kind → ∃ a, v = wrap a ∧ answer = .ok (given a)

/-- The eleven readers of a record, each with its kind and default. -/
structure AnswersAll (r : Record) (tag : UInt16) : Prop where
  u8 : Answers .u8 .u8 id 0 r tag (r.u8 tag)
  u16 : Answers .u16 .u16 id 0 r tag (r.u16 tag)
  u32 : Answers .u32 .u32 id 0 r tag (r.u32 tag)
  u64 : Answers .u64 .u64 id 0 r tag (r.u64 tag)
  bool : Answers .bool .bool id false r tag (r.bool tag)
  text : Answers .text .text id "" r tag (r.text tag)
  bytes : Answers .bytes .bytes id [] r tag (r.bytes tag)
  words : Answers .words .words id [] r tag (r.words tag)
  texts : Answers .texts .texts id [] r tag (r.texts tag)
  record : Answers .record .record some none r tag (r.record? tag)
  records : Answers .records .records id [] r tag (r.records tag)

/-- A view that recognises the values of a kind and no others answers. -/
theorem answers_fetch {α β : Type} {kind : Kind} {wrap : α → Value} {given : α → β} {default : β}
    {view : Value → Option β} (sees : ∀ v,
      (v.kind = kind ∧ ∃ a, v = wrap a ∧ view v = some (given a)) ∨
      (v.kind ≠ kind ∧ view v = none)) (r : Record) (tag : UInt16) :
    Answers kind wrap given default r tag (r.fetch tag kind view default) where
  absent none := fetch_of_get?_eq_none (get?_eq_none_iff.mpr none) kind view default
  fault e := by
    constructor
    · intro failed
      cases found : r.get? tag with
      | none =>
        rw [fetch_of_get?_eq_none found] at failed
        cases failed
      | some v =>
        rw [fetch_of_get?_eq_some found] at failed
        rcases sees v with ⟨-, a, -, seen⟩ | ⟨other, unseen⟩
        · rw [seen] at failed
          cases failed
        · rw [unseen] at failed
          cases failed
          exact ⟨v, get?_eq_some_iff_first.mp found, other, rfl⟩
    · rintro ⟨v, first, other, rfl⟩
      rw [fetch_of_get?_eq_some (get?_eq_some_iff_first.mpr first)]
      rcases sees v with ⟨same, -⟩ | ⟨-, unseen⟩
      · exact absurd same other
      · rw [unseen]
  value v first same := by
    rcases sees v with ⟨-, a, rfl, seen⟩ | ⟨other, -⟩
    · refine ⟨a, rfl, ?_⟩
      rw [fetch_of_get?_eq_some (get?_eq_some_iff_first.mpr first), seen]
    · exact absurd same other

/-- **Every reader of a record answers.** -/
theorem answersAll (r : Record) (tag : UInt16) : r.AnswersAll tag := by
  constructor
  -- the views are alike: each takes the values of its kind
  all_goals
    refine answers_fetch (fun v => ?_) r tag
    cases v <;> first
      | exact .inl ⟨rfl, _, rfl, rfl⟩
      | exact .inr ⟨nofun, rfl⟩

end Record

/-! ## Where the data of a field lies -/

/-- A field that is written among others has its place among their bytes. -/
theorem FieldsWrittenAs.exists_field {fs : List Field} {bytes : Bytes}
    (written : FieldsWrittenAs fs bytes) {f : Field} (mem : f ∈ fs) :
    ∃ part, part <:+: bytes ∧ f.WrittenAs part := by
  induction fs generalizing bytes with
  | nil => exact absurd mem List.not_mem_nil
  | cons g fs ih =>
    obtain ⟨front, behind, rfl, first, rest⟩ := fieldsWrittenAs_cons.mp written
    rcases List.mem_cons.mp mem with rfl | mem
    · exact ⟨front, (List.prefix_append front behind).isInfix, first⟩
    · obtain ⟨part, inside, field⟩ := ih rest mem
      exact ⟨part, inside.trans (List.suffix_append front behind).isInfix, field⟩

/-- A record that is written among others has its place among their bytes. -/
theorem RecordsWrittenAs.exists_record {rs : List Record} {bytes : Bytes}
    (written : RecordsWrittenAs rs bytes) {r : Record} (mem : r ∈ rs) :
    ∃ part, part <:+: bytes ∧ r.WrittenAs part := by
  induction rs generalizing bytes with
  | nil => exact absurd mem List.not_mem_nil
  | cons g rs ih =>
    obtain ⟨front, behind, rfl, first, rest⟩ := recordsWrittenAs_cons.mp written
    rcases List.mem_cons.mp mem with rfl | mem
    · exact ⟨front, ⟨count32 front.length, behind, rfl⟩, first⟩
    · obtain ⟨part, inside, record⟩ := ih rest mem
      exact ⟨part, inside.trans (List.suffix_append _ behind).isInfix, record⟩

/-- A record in a value has its place in the data. -/
theorem Value.WrittenAs.exists_subrecord {v : Value} {data : Bytes} (written : v.WrittenAs data)
    {r : Record} (sub : r ∈ v.subrecords) : ∃ part, part <:+: data ∧ r.WrittenAs part := by
  cases v with
  | record inner =>
    rw [Value.subrecords, List.mem_singleton] at sub
    subst sub
    exact ⟨data, List.infix_rfl, Value.writtenAs_record_iff.mp written⟩
  | records inner =>
    rw [Value.subrecords] at sub
    obtain ⟨bytes, rfl, records⟩ := Value.writtenAs_records_iff.mp written
    obtain ⟨part, inside, record⟩ := records.exists_record sub
    exact ⟨part, inside.trans (List.suffix_append _ bytes).isInfix, record⟩
  | _ => exact absurd sub List.not_mem_nil

/-- A field of a record has its header and its data in the bytes of the record. -/
theorem Record.WrittenAs.exists_field {r : Record} {bytes : Bytes} (written : r.WrittenAs bytes)
    {f : Field} (mem : f ∈ r) :
    ∃ reserved data, word16 f.tag ++ [f.value.kind.code, reserved] ++ lengthFirst data <:+: bytes ∧
      f.value.WrittenAs data := by
  obtain ⟨body, rfl, fields⟩ := Record.writtenAs_iff.mp written
  obtain ⟨part, inside, field⟩ := fields.exists_field mem
  obtain ⟨tag, value⟩ := f
  obtain ⟨reserved, data, rfl, contents⟩ := Field.writtenAs_iff.mp field
  exact ⟨reserved, data, inside.trans (List.suffix_append _ body).isInfix, contents⟩

/-- A record nested in another has its place in the bytes of the other. -/
theorem Record.Within.exists_part {r inner : Record} (within : inner.Within r) {bytes : Bytes}
    (written : r.WrittenAs bytes) : ∃ part, part <:+: bytes ∧ inner.WrittenAs part := by
  induction within generalizing bytes with
  | self r => exact ⟨bytes, List.infix_rfl, written⟩
  | nested mem sub deeper ih =>
    obtain ⟨reserved, data, inside, contents⟩ := written.exists_field mem
    obtain ⟨part, within, record⟩ := contents.exists_subrecord sub
    obtain ⟨innermost, deep, found⟩ := ih record
    have data_inside : data <:+: bytes :=
      (List.suffix_append _ data).isInfix.trans ((List.suffix_append _ _).isInfix.trans inside)
    exact ⟨innermost, deep.trans (within.trans data_inside), found⟩

/-- **A field's own data gives its value**: the field of a record that was read, at any depth, has
its header in the buffer with its data behind, and reading the data under the kind gives the value
again. -/
theorem Record.exists_data {buf : Bytes} {r inner : Record} (read : Record.parse buf = .ok r)
    (within : inner.Within r) {f : Field} (mem : f ∈ inner) :
    ∃ reserved data, word16 f.tag ++ [f.value.kind.code, reserved] ++ lengthFirst data <:+: buf ∧
      parseValue Record.parse f.tag f.value.kind data = .ok f.value := by
  obtain ⟨fits, written⟩ := Record.parse_eq_ok_iff.mp read
  obtain ⟨part, inside, record⟩ := within.exists_part written
  obtain ⟨reserved, data, header, contents⟩ := record.exists_field mem
  refine ⟨reserved, data, header.trans inside, ?_⟩
  have small : data.length < 2 ^ 32 := contents.length ▸ (fits.within within).data f mem
  exact (Record.parseValue_eq_ok_iff small).mpr ⟨rfl, contents⟩

/-! ## The buffers that are accepted -/

/-- **What is accepted as a record.** A buffer is accepted exactly when it is what some record is
written as, up to the reserved bytes; a writer has 32 bits for each count and length, so a written
record is one that fits, and below 4 GiB every record does. Then the record is the only one, and
writing it again gives the buffer with the reserved bytes cleared. At every depth each reader
answers, for every tag, and every field gives its value from its own data. -/
theorem Record.parse_accepts (buf : Bytes) :
    ((∃ r, Record.parse buf = .ok r) ↔ ∃ r : Record, r.Fits ∧ r.WrittenAs buf) ∧
      (buf.length < 2 ^ 32 → ∀ r : Record, r.WrittenAs buf → r.Fits) ∧
      ∀ r, Record.parse buf = .ok r →
        (∀ r' : Record, r'.Fits → r'.WrittenAs buf → r' = r) ∧
        r.encode = clearAt r.reserved buf ∧
        ∀ inner : Record, inner.Within r →
          (∀ tag, inner.AnswersAll tag) ∧
          ∀ f ∈ inner, ∃ reserved data,
            word16 f.tag ++ [f.value.kind.code, reserved] ++ lengthFirst data <:+: buf ∧
            parseValue Record.parse f.tag f.value.kind data = .ok f.value := by
  refine ⟨exists_congr fun r => Record.parse_eq_ok_iff, fun small r written => ?_,
    fun r read => ⟨?_, ?_, ?_⟩⟩
  · exact Record.fits_of_length_lt (written.length ▸ small)
  · intro r' fits written
    have other : Record.parse buf = .ok r' := Record.parse_eq_ok_iff.mpr ⟨fits, written⟩
    rw [read] at other
    exact (Except.ok.inj other).symm
  · obtain ⟨-, written⟩ := Record.parse_eq_ok_iff.mp read
    exact Eq.symm written
  · intro inner within
    exact ⟨inner.answersAll, fun f mem => Record.exists_data read within mem⟩

/-- A reserved byte may hold anything and is dropped. -/
example : Record.parse [1, 0, 0, 0, 5, 0, 1, 171, 1, 0, 0, 0, 9] = .ok [⟨5, .u8 9⟩] := rfl

end ComputePlanner
