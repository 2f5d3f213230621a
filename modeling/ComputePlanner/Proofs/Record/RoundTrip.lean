import ComputePlanner.Proofs.Record.Conformance
import ComputePlanner.Proofs.Record.Reading
import ComputePlanner.Record.Access

/-! # Records survive being written
Reading a written record gives the record back, at any depth, if 32 bits hold its lengths
(**`Record.parse_encode`**). What that means to someone who asks for the fields is spelled out: they
are there in the order in which they were written, with their tags and kinds, and the accessor of
each kind gives what was written, down through the nested records (`FieldsGivenBackBy`). The same
holds of the parts: each nested record (`Record.Within`) is read back from its own bytes, and each
value from its own data.

Main statement: **`Record.givenBack_of_fits`**. -/

namespace ComputePlanner

/-- **Records survive being written**: a record that fits is read back. -/
theorem Record.parse_encode {r : Record} (fits : r.Fits) : Record.parse r.encode = .ok r :=
  Record.parse_eq_ok_iff.mpr ⟨fits, r.writtenAs_encode⟩

/-- A text of a record that fits is no longer than 32 bits can say. -/
theorem Record.Fits.length_text_lt {r : Record} (fits : r.Fits) {tag : UInt16} {s : String}
    (read : r.text tag = .ok s) : (Utf8.encode s).length < 2 ^ 32 := by
  rw [Record.text] at read
  cases found : r.get? tag with
  | none =>
    -- an absent text is empty
    rw [fetch_of_get?_eq_none found] at read
    cases read
    decide
  | some v =>
    obtain ⟨f, first, rfl⟩ := Option.map_eq_some_iff.mp found
    have short := fits.data f (List.mem_of_find?_eq_some first)
    rw [fetch_of_get?_eq_some found] at read
    cases value : f.value with
    | text t =>
      rw [value] at read short
      cases read
      exact short
    | _ =>
      rw [value] at read
      cases read

/-! ## Records in records -/

/-- The record itself, and every record nested in it, to any depth. -/
inductive Record.Within : Record → Record → Prop
  | self (r : Record) : Within r r
  | nested {r r' inner : Record} {f : Field} (mem : f ∈ r) (sub : r' ∈ f.value.subrecords)
      (deeper : Within inner r') : Within inner r

/-- What is nested in a record that fits does too, since it lies in the data of a field. -/
theorem Record.Fits.within {r inner : Record} (fits : r.Fits) (within : inner.Within r) :
    inner.Fits := by
  induction within with
  | self r => exact fits
  | nested mem sub deeper ih =>
    have data := fits.data _ mem
    have length := length_subrecord_le sub
    exact ih (Record.fits_of_length_lt (by omega))

/-! ## What the accessors give back -/

mutual

/-- The accessor of the kind of `written` gives it back from `read`, and so on for the records in
it. -/
def Value.GivenBackBy (written read : Value) : Prop :=
  match written with
  | .u8 v => read.asU8? = some v
  | .u16 v => read.asU16? = some v
  | .u32 v => read.asU32? = some v
  | .u64 v => read.asU64? = some v
  | .bool v => read.asBool? = some v
  | .text v => read.asText? = some v
  | .bytes v => read.asBytes? = some v
  | .words vs => read.asWords? = some vs
  | .texts vs => read.asTexts? = some vs
  | .record fields => ∃ r, read.asRecord? = some r ∧ FieldsGivenBackBy fields r
  | .records rs => ∃ rs', read.asRecords? = some rs' ∧ RecordsGivenBackBy rs rs'

/-- The fields that were written are those that are read: in their order, with their tags and kinds,
and with what the accessors give back. -/
def FieldsGivenBackBy (written read : List Field) : Prop :=
  match written with
  | [] => read = []
  | ⟨tag, value⟩ :: fs => ∃ f fs', read = f :: fs' ∧ f.tag = tag ∧ f.value.kind = value.kind ∧
      value.GivenBackBy f.value ∧ FieldsGivenBackBy fs fs'

/-- The records that were written are those that are read, in their order. -/
def RecordsGivenBackBy (written read : List (List Field)) : Prop :=
  match written with
  | [] => read = []
  | r :: rs => ∃ r' rs', read = r' :: rs' ∧ FieldsGivenBackBy r r' ∧ RecordsGivenBackBy rs rs'

end

mutual

/-- A value gives itself back. -/
theorem Value.givenBackBy_self : (v : Value) → v.GivenBackBy v
  | .record fields => ⟨fields, rfl, fieldsGivenBackBy_self fields⟩
  | .records rs => ⟨rs, rfl, recordsGivenBackBy_self rs⟩
  | .u8 _ | .u16 _ | .u32 _ | .u64 _ | .bool _ | .text _ | .bytes _ | .words _ | .texts _ => rfl

/-- Fields give themselves back. -/
theorem fieldsGivenBackBy_self : (fs : List Field) → FieldsGivenBackBy fs fs
  | [] => rfl
  | ⟨tag, value⟩ :: fs =>
    ⟨⟨tag, value⟩, fs, rfl, rfl, rfl, value.givenBackBy_self, fieldsGivenBackBy_self fs⟩

/-- Records give themselves back. -/
theorem recordsGivenBackBy_self : (rs : List (List Field)) → RecordsGivenBackBy rs rs
  | [] => rfl
  | r :: rs => ⟨r, rs, rfl, fieldsGivenBackBy_self r, recordsGivenBackBy_self rs⟩

end

/-- **What was written is given back.** A record that fits is read from its written form; its fields
are there in the order in which they were written, with their tags and kinds, and each accessor gives
what was written, at every depth. Each record nested in it is read from its own written form, and the
value of each of its fields from the data of that field. -/
theorem Record.givenBack_of_fits {r : Record} (fits : r.Fits) :
    (∃ read, Record.parse r.encode = .ok read ∧ FieldsGivenBackBy r read) ∧
      ∀ inner : Record, inner.Within r →
        Record.parse inner.encode = .ok inner ∧
          ∀ f ∈ inner, parseValue Record.parse f.tag f.value.kind f.value.data = .ok f.value := by
  refine ⟨⟨r, Record.parse_encode fits, fieldsGivenBackBy_self r⟩, fun inner within => ?_⟩
  have inside : inner.Fits := fits.within within
  refine ⟨Record.parse_encode inside, fun f mem => ?_⟩
  exact (Record.parseValue_eq_ok_iff (inside.data f mem)).mpr ⟨rfl, f.value.writtenAs_data⟩

/-- A record with a tag that is there twice, with empty lists, and with records in records. -/
def Record.nestedSample : Record :=
  [⟨7, .bool true⟩, ⟨7, .texts []⟩,
    ⟨1, .record [⟨2, .records [[], [⟨3, .record [⟨7, .words []⟩]⟩]]⟩]⟩]

/-- The sample fits, so it is given back. -/
theorem Record.givenBack_of_fits_nestedSample :
    nestedSample.Fits ∧
      (∃ read, Record.parse nestedSample.encode = .ok read ∧
        FieldsGivenBackBy nestedSample read) ∧
      ∀ inner : Record, inner.Within nestedSample →
        Record.parse inner.encode = .ok inner ∧
          ∀ f ∈ inner, parseValue Record.parse f.tag f.value.kind f.value.data = .ok f.value := by
  have fits : nestedSample.Fits := Record.fits_of_length_lt (by decide)
  exact ⟨fits, Record.givenBack_of_fits fits⟩

end ComputePlanner
