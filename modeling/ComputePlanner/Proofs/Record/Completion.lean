import ComputePlanner.Proofs.Record.Fetching

/-! # What a reader learns from a record
A reader asks for every field of a schema, here and in the records nested in it, and makes up what is
not there. The record from which nothing has to be made up is **`Schema.complete`**: every field of
the schema once, in its order, with its first value, or with the zero or empty value of its kind if
the record has none. A reader need not tell all bytes apart, so the completion takes a rule for what
is made of the byte of a field.

A byte of a record goes by the name of its field. **`Schema.HasByte`** finds it, at any depth.

Main statement: **`Follows.eq_complete_and_forall_hasByte`**, from what is known of each field to what
is known of the record. -/

namespace ComputePlanner

/-! ## Completion -/

/-- A value with its byte changed, if it is one. -/
def Value.mapByte (g : UInt8 → UInt8) : Value → Value
  | .u8 code => .u8 (g code)
  | v => v

section

variable (rule : String → UInt8 → UInt8)

mutual

/-- The completion of a record: each field of the schema, in its order. -/
def Schema.complete : Schema → Record → Record
  | [], _ => []
  | spec :: specs, r =>
    ⟨spec.tag, FieldSpec.complete spec (r.valueOf spec)⟩ :: Schema.complete specs r

/-- The completion of the value of a field: its byte is ruled on, the records in it are completed. -/
def FieldSpec.complete : FieldSpec → Value → Value
  | ⟨_, name, _, _, nested⟩, v =>
    (v.mapByte (rule name)).mapRecords fun r => Schema.complete nested r

end

/-- The records in a field are completed to the field's own schema. -/
theorem FieldSpec.complete_eq (spec : FieldSpec) (v : Value) :
    spec.complete rule v
      = (v.mapByte (rule spec.name)).mapRecords (Schema.complete rule spec.nested) := by
  cases spec
  rfl

/-- The completion goes through the schema field by field. -/
theorem Schema.complete_eq_map (s : Schema) (r : Record) :
    s.complete rule r = s.map fun spec => ⟨spec.tag, spec.complete rule (r.valueOf spec)⟩ := by
  induction s with
  | nil => rfl
  | cons spec s ih => rw [complete, ih, List.map_cons]

end

/-! ## Bytes -/

/-- The value of a field holds a byte: it is one, or a field of a record in it holds one. -/
inductive FieldSpec.HasByte : FieldSpec → Value → String → UInt8 → Prop
  /-- The value is the byte, which goes by the name of the field. -/
  | self (spec : FieldSpec) (code : UInt8) : HasByte spec (.u8 code) spec.name code
  /-- The byte is in a record. -/
  | nested {spec field : FieldSpec} {v v' : Value} {r : Record} {name : String} {code : UInt8}
    (sub : r ∈ v.subrecords) (known : field ∈ spec.nested) (mem : ⟨field.tag, v'⟩ ∈ r)
    (holds : HasByte field v' name code) : HasByte spec v name code

/-- A record holds a byte in a field of a schema. -/
def Schema.HasByte (s : Schema) (r : Record) (name : String) (code : UInt8) : Prop :=
  ∃ spec ∈ s, ∃ v, ⟨spec.tag, v⟩ ∈ r ∧ spec.HasByte v name code

/-- An empty record holds no byte. -/
theorem Schema.not_hasByte_nil (s : Schema) (name : String) (code : UInt8) :
    ¬s.HasByte [] name code := by
  rintro ⟨spec, -, v, mem, -⟩
  exact List.not_mem_nil mem

namespace FieldSpec

variable {spec : FieldSpec} {v : Value} {name : String} {code : UInt8}

/-- What a value holds is itself or in a record in it. -/
theorem hasByte_iff : spec.HasByte v name code ↔
    (v = .u8 code ∧ name = spec.name) ∨
      ∃ r ∈ v.subrecords, Schema.HasByte spec.nested r name code := by
  constructor
  · rintro (_ | ⟨sub, known, mem, holds⟩)
    · exact .inl ⟨rfl, rfl⟩
    · exact .inr ⟨_, sub, _, known, _, mem, holds⟩
  · rintro (⟨rfl, rfl⟩ | ⟨r, sub, field, known, v', mem, holds⟩)
    · exact .self spec code
    · exact .nested sub known mem holds

/-- The only byte of a zero value is zero. -/
theorem eq_zero_of_hasByte {kind : Kind} (holds : spec.HasByte kind.zero name code) : code = 0 := by
  rcases hasByte_iff.mp holds with ⟨value, -⟩ | ⟨r, sub, inside⟩
  · cases kind <;> cases value
    rfl
  · have empty : r = [] := by
      cases kind <;> simp [Kind.zero] at sub
      exact sub
    rw [empty] at inside
    exact absurd inside (Schema.not_hasByte_nil _ name code)

end FieldSpec

/-- Kinds whose values are neither bytes nor hold records. -/
def Kind.isPlain : Kind → Bool
  | .u8 | .record | .records => false
  | _ => true

/-- A plain value is no byte and holds no records. -/
theorem Value.of_isPlain {v : Value} (plain : v.kind.isPlain = true) :
    v.kind ≠ .u8 ∧ v.subrecords = [] ∧ ∀ g, v.mapRecords g = v := by
  cases v with
  | u8 code => cases plain
  | record r => cases plain
  | records rs => cases plain
  | _ => exact ⟨nofun, rfl, fun _ => rfl⟩

namespace Follows

variable {s : Schema} {r : Record} {name : String} {code : UInt8}

/-- A byte of a record is a byte of what the record has for a field. -/
theorem exists_hasByte_valueOf (h : Follows s r) (holds : s.HasByte r name code) :
    ∃ spec ∈ s, spec.HasByte (r.valueOf spec) name code := by
  obtain ⟨spec, known, v, mem, holds⟩ := holds
  have given := (Record.get?_eq_some_iff h.level.once (Schema.knows_tag known) v).mpr mem
  refine ⟨spec, known, ?_⟩
  rwa [Record.valueOf, given, Option.getD_some]

/-- A byte of what a record has for a field is a byte of the record, unless it is zero. -/
theorem hasByte_of_valueOf (h : Follows s r) {spec : FieldSpec}
    (found : s.ofTag? spec.tag = some spec) (holds : spec.HasByte (r.valueOf spec) name code)
    (nonzero : code ≠ 0) : s.HasByte r name code := by
  obtain ⟨known, -⟩ := Schema.mem_of_ofTag? found
  unfold Record.valueOf at holds
  cases given : r.get? spec.tag with
  | none =>
    -- what is made up for a field that is not there holds zeros only
    rw [given] at holds
    exact absurd (FieldSpec.eq_zero_of_hasByte holds) nonzero
  | some v =>
    rw [given] at holds
    have mem := (Record.get?_eq_some_iff h.level.once (Schema.knows_tag known) v).mp given
    exact ⟨spec, known, v, mem, holds⟩

end Follows

/-! ## From the fields to the record -/

section

variable {rule : String → UInt8 → UInt8} {good : String → UInt8 → Prop} {s : Schema} {r : Record}

/-- A field is what a record says of its tag: it has the completed value, and the bytes of the value
are good. -/
def Told (rule : String → UInt8 → UInt8) (good : String → UInt8 → Prop) (s : Schema) (r : Record)
    (f : Field) : Prop :=
  ∃ spec, s.ofTag? f.tag = some spec ∧ f.value = spec.complete rule (r.valueOf spec) ∧
    ∀ name code, spec.HasByte (r.valueOf spec) name code → good name code

/-- Fields that say what a record does, one for each of some fields of a schema, are the completion of
those. -/
theorem eq_map_of_told {specs : List FieldSpec} {fs : Record}
    (answers : ∀ spec ∈ specs, s.ofTag? spec.tag = some spec)
    (tags : fs.map (·.tag) = specs.map (·.tag)) (told : ∀ f ∈ fs, Told rule good s r f) :
    fs = specs.map fun spec => ⟨spec.tag, spec.complete rule (r.valueOf spec)⟩ := by
  -- `s` stays whole, as tags are looked up in all of it
  induction specs generalizing fs with
  | nil => exact List.map_eq_nil_iff.mp tags
  | cons spec specs ih =>
    cases fs with
    | nil => cases tags
    | cons f fs =>
      obtain ⟨tag, v⟩ := f
      rw [List.map_cons, List.map_cons, List.cons.injEq] at tags
      obtain ⟨rfl, tags⟩ := tags
      obtain ⟨first, answers⟩ := List.forall_mem_cons.mp answers
      obtain ⟨⟨spec', found, value, -⟩, told⟩ := List.forall_mem_cons.mp told
      dsimp only at found value
      rw [first] at found
      cases found
      rw [List.map_cons, ← ih answers tags told, value]

/-- **Fields that say what a record does, one for each field of the schema, are its completion**, and
all bytes of the record are good. -/
theorem Follows.eq_complete_and_forall_hasByte (h : Follows s r) (distinct : (s.map (·.tag)).Nodup)
    {fs : Record} (tags : fs.map (·.tag) = s.map (·.tag)) (told : ∀ f ∈ fs, Told rule good s r f) :
    fs = s.complete rule r ∧ ∀ name code, s.HasByte r name code → good name code := by
  have answers : ∀ spec ∈ s, s.ofTag? spec.tag = some spec :=
    fun spec mem => Schema.ofTag?_of_mem distinct mem
  constructor
  · rw [Schema.complete_eq_map]
    exact eq_map_of_told answers tags told
  · intro name code holds
    obtain ⟨spec, known, holds⟩ := h.exists_hasByte_valueOf holds
    -- the place of the schema that the byte is in has its field among `fs`
    have listed : spec.tag ∈ fs.map (·.tag) := tags ▸ List.mem_map_of_mem known
    obtain ⟨f, mem, same⟩ := List.mem_map.mp listed
    obtain ⟨spec', found, -, bytes⟩ := told f mem
    rw [same, answers spec known] at found
    cases found
    exact bytes name code holds

end

end ComputePlanner
