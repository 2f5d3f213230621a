import ComputePlanner.Proofs.Record.Evolution

/-! # Reading records that follow a schema
The first field with a tag answers when the tag is asked for, and it may be of another kind than the
one asked for. In a record that follows a schema that cannot happen, as long as fields of the schema
are asked for as what they are: main statement **`Follows.exists_fetch`**. What a record has for a
field is its value or, if the field is not there, the zero or empty value of the kind
(**`Record.valueOf`**). The records that a nested field answers with follow the schema below it. -/

namespace ComputePlanner

/-- The kind that a schema gives to a tag. -/
def Schema.kindOf? (s : Schema) (tag : UInt16) : Option Kind := (s.ofTag? tag).map (·.kind)

/-- A tag with a kind is that of a field of the kind. -/
theorem Schema.exists_of_kindOf? {s : Schema} {tag : UInt16} {kind : Kind}
    (known : s.kindOf? tag = some kind) :
    ∃ spec, spec.tag = tag ∧ s.ofTag? tag = some spec ∧ spec.kind = kind := by
  obtain ⟨spec, found, same⟩ := Option.map_eq_some_iff.mp known
  exact ⟨spec, (mem_of_ofTag? found).2, found, same⟩

/-- The zero, false or empty value of a kind. -/
def Kind.zero : Kind → Value
  | .u8 => .u8 0
  | .u16 => .u16 0
  | .u32 => .u32 0
  | .u64 => .u64 0
  | .bool => .bool false
  | .text => .text ""
  | .bytes => .bytes []
  | .words => .words []
  | .texts => .texts []
  | .record => .record []
  | .records => .records []

@[simp] theorem Kind.kind_zero (kind : Kind) : kind.zero.kind = kind := by cases kind <;> rfl

namespace Record

/-- What a record has for a field: the first value with its tag, or zero. -/
def valueOf (r : Record) (spec : FieldSpec) : Value := (r.get? spec.tag).getD spec.kind.zero

/-- A field is read as its value is seen, where the zero value is seen as what absence is. -/
theorem fetch_of_valueOf {r : Record} {spec : FieldSpec} {view : Value → Option α} {absent a : α}
    (zero : view spec.kind.zero = some absent) (seen : view (r.valueOf spec) = some a) :
    r.fetch spec.tag spec.kind view absent = .ok a := by
  unfold valueOf at seen
  cases given : r.get? spec.tag with
  | none =>
    rw [given, Option.getD_none, zero, Option.some.injEq] at seen
    rw [fetch_of_get?_eq_none given, seen]
  | some v =>
    rw [given, Option.getD_some] at seen
    rw [fetch_of_get?_eq_some given, seen]

end Record

namespace Follows

variable {s : Schema} {r : Record} {tag : UInt16}

/-- What answers to a tag of the schema has its kind, and the records in it follow. -/
theorem of_get? (h : Follows s r) {spec : FieldSpec} (found : s.ofTag? tag = some spec) {v : Value}
    (given : r.get? tag = some v) :
    v.kind = spec.kind ∧ ∀ r' ∈ v.subrecords, Follows spec.nested r' := by
  have knows : s.knows tag = true := by rw [Schema.knows, found, Option.isSome_some]
  have mem := (Record.get?_eq_some_iff h.level.once knows v).mp given
  exact ⟨h.level.kinds _ mem spec found, fun r' sub => h.nested mem found sub⟩

/-- What a record has for a field has its kind. -/
theorem kind_valueOf (h : Follows s r) {spec : FieldSpec} (found : s.ofTag? spec.tag = some spec) :
    (r.valueOf spec).kind = spec.kind := by
  unfold Record.valueOf
  cases given : r.get? spec.tag with
  | none => exact Kind.kind_zero spec.kind
  | some v => exact (h.of_get? found given).1

/-- **A field of the schema can be read as its kind**, whether it is there or not. -/
theorem exists_fetch (h : Follows s r) {kind : Kind} (known : s.kindOf? tag = some kind)
    {view : Value → Option α} (views : ∀ v, v.kind = kind → ∃ a, view v = some a) (absent : α) :
    ∃ a, r.fetch tag kind view absent = .ok a := by
  cases given : r.get? tag with
  | none => exact ⟨absent, Record.fetch_of_get?_eq_none given kind view absent⟩
  | some v =>
    obtain ⟨spec, -, found, rfl⟩ := Schema.exists_of_kindOf? known
    obtain ⟨a, seen⟩ := views v (h.of_get? found given).1
    refine ⟨a, ?_⟩
    rw [Record.fetch_of_get?_eq_some given, seen]

/-- A 16-bit word of the schema can be read. -/
theorem exists_u16 (h : Follows s r) (known : s.kindOf? tag = some .u16) :
    ∃ a, r.u16 tag = .ok a :=
  h.exists_fetch known (by rintro (_ | _) ⟨⟩; exact ⟨_, rfl⟩) 0

/-- A list of texts. -/
theorem exists_texts (h : Follows s r) (known : s.kindOf? tag = some .texts) :
    ∃ a, r.texts tag = .ok a :=
  h.exists_fetch known (by rintro (_ | _) ⟨⟩; exact ⟨_, rfl⟩) []

section Nested

variable {spec : FieldSpec} (found : s.ofTag? spec.tag = some spec)

include found

/-- A nested record, which follows the schema of the field. Absence counts as an empty record. -/
theorem exists_record? (h : Follows s r) (kind : spec.kind = .record) :
    ∃ o, r.record? spec.tag = .ok o ∧ r.valueOf spec = .record (o.getD []) ∧
      ∀ r', o = some r' → Follows spec.nested r' := by
  cases given : r.get? spec.tag with
  | none =>
    refine ⟨none, Record.fetch_of_get?_eq_none given .., ?_, nofun⟩
    rw [Record.valueOf, given, kind]
    rfl
  | some v =>
    obtain ⟨same, nested⟩ := h.of_get? found given
    rw [kind] at same
    cases v with
    | record r' =>
      refine ⟨some r', Record.fetch_of_get?_eq_some given .., ?_, ?_⟩
      · rw [Record.valueOf, given, Option.getD_some, Option.getD_some]
      · rintro _ ⟨⟩
        exact nested r' List.mem_cons_self
    | _ => cases same

/-- A list of records, which follow the schema of the field. -/
theorem exists_records (h : Follows s r) (kind : spec.kind = .records) :
    ∃ rs, r.records spec.tag = .ok rs ∧ r.valueOf spec = .records rs ∧
      ∀ r' ∈ rs, Follows spec.nested r' := by
  cases given : r.get? spec.tag with
  | none =>
    refine ⟨[], Record.fetch_of_get?_eq_none given .., ?_, nofun⟩
    rw [Record.valueOf, given, kind]
    rfl
  | some v =>
    obtain ⟨same, nested⟩ := h.of_get? found given
    rw [kind] at same
    cases v with
    | records rs =>
      refine ⟨rs, Record.fetch_of_get?_eq_some given .., ?_, nested⟩
      rw [Record.valueOf, given, Option.getD_some]
    | _ => cases same

end Nested

end Follows

end ComputePlanner
