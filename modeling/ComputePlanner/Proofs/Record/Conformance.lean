import ComputePlanner.Proofs.Except
import ComputePlanner.Record.Schema
import Mathlib.Data.List.Nodup

/-! # What a schema accepts
The check of a record walks its fields in order and carries the tags it has met. **`Follows`** says
what it accepts without the walk: which fields a record may hold, at every depth, whatever their
order. Main statement: **`verifyRecord_eq_ok_iff`**, the check accepts a record exactly when it
follows the schema.

The path that faults are named below plays no part in what is accepted, so `Follows` has none. -/

namespace ComputePlanner

/-- The records nested in a value. -/
def Value.subrecords : Value → List Record
  | .record r => [r]
  | .records rs => rs
  | _ => []

attribute [simp] Value.kind Value.subrecords

namespace Schema

/-- Whether the schema has a field of the tag. -/
def knows (s : Schema) (tag : UInt16) : Bool := (s.ofTag? tag).isSome

/-- The tags of a record that the schema knows, in the order of the fields. -/
def knownTags (s : Schema) (r : Record) : List UInt16 := (r.map (·.tag)).filter s.knows

@[simp] theorem knownTags_nil (s : Schema) : s.knownTags [] = [] := rfl

/-- A field that the schema knows adds its tag. -/
theorem knownTags_cons_of_some {s : Schema} {f : Field} {spec : FieldSpec}
    (h : s.ofTag? f.tag = some spec) (r : Record) :
    s.knownTags (f :: r) = f.tag :: s.knownTags r := by
  rw [knownTags, List.map_cons, List.filter_cons_of_pos (by simp [knows, h])]
  rfl

/-- A field that the schema does not know adds nothing. -/
theorem knownTags_cons_of_none {s : Schema} {f : Field} (h : s.ofTag? f.tag = none) (r : Record) :
    s.knownTags (f :: r) = s.knownTags r := by
  rw [knownTags, List.map_cons, List.filter_cons_of_neg (by simp [knows, h])]
  rfl

/-- A field of the schema answers to its tag, though another of the tag may stand before it. -/
theorem knows_tag {s : Schema} {spec : FieldSpec} (h : spec ∈ s) : s.knows spec.tag = true := by
  rw [knows, ofTag?, List.find?_isSome]
  exact ⟨spec, h, beq_self_eq_true spec.tag⟩

/-- What a tag leads to is a field of the schema with that tag. -/
theorem mem_of_ofTag? {s : Schema} {tag : UInt16} {spec : FieldSpec}
    (found : s.ofTag? tag = some spec) : spec ∈ s ∧ spec.tag = tag := by
  unfold ofTag? at found
  have same := List.find?_some found
  exact ⟨List.mem_of_find?_eq_some found, eq_of_beq same⟩

/-- For a field of the schema, being among the known tags is being among the tags. -/
theorem mem_knownTags {s : Schema} {spec : FieldSpec} (h : spec ∈ s) (r : Record) :
    spec.tag ∈ s.knownTags r ↔ spec.tag ∈ r.map (·.tag) := by
  rw [knownTags, List.mem_filter, and_iff_left (knows_tag h)]

end Schema

/-! ## The statement -/

/-- What one level of a record needs, the records nested in it apart. -/
structure FollowsLevel (s : Schema) (r : Record) : Prop where
  /-- No field of the schema is there twice. -/
  once : (s.knownTags r).Nodup
  /-- The fields of the schema have its kinds. -/
  kinds : ∀ f ∈ r, ∀ spec, s.ofTag? f.tag = some spec → f.value.kind = spec.kind
  /-- The mandatory fields are there. -/
  present : ∀ spec ∈ s, spec.mandatory = true → spec.tag ∈ r.map (·.tag)

/-- A record follows a schema: every level does, down through the fields of the schema. Fields that
the schema does not know may hold anything. -/
inductive Follows : Schema → Record → Prop
  | intro {s : Schema} {r : Record} (level : FollowsLevel s r)
      (nested : ∀ f ∈ r, ∀ spec, s.ofTag? f.tag = some spec →
        ∀ r' ∈ f.value.subrecords, Follows spec.nested r') : Follows s r

/-- The top level of a record that follows a schema. -/
theorem Follows.level {s : Schema} {r : Record} (h : Follows s r) : FollowsLevel s r := by
  cases h with
  | intro level nested => exact level

/-- The records nested in a record that follows a schema. -/
theorem Follows.nested {s : Schema} {r : Record} (h : Follows s r) {f : Field} (mem : f ∈ r)
    {spec : FieldSpec} (known : s.ofTag? f.tag = some spec) {r' : Record}
    (sub : r' ∈ f.value.subrecords) : Follows spec.nested r' := by
  cases h with
  | intro level nested => exact nested f mem spec known r' sub

/-! ## The check -/

/-- Nothing is missing exactly when every mandatory tag was met. -/
theorem Schema.checkPresent_eq_ok_iff (s : Schema) (path : String) (seen : List UInt16) :
    s.checkPresent path seen = .ok () ↔ ∀ spec ∈ s, spec.mandatory = true → spec.tag ∈ seen := by
  unfold checkPresent
  cases missing : s.firstMissing? seen with
  | none =>
    -- no field of the schema is both mandatory and unseen
    rw [firstMissing?, List.find?_eq_none] at missing
    refine iff_of_true rfl fun spec mem must => ?_
    have := missing spec mem
    simpa [must] using this
  | some spec =>
    rw [firstMissing?] at missing
    have found := List.find?_some missing
    simp only [Bool.and_eq_true, Bool.not_eq_true', List.contains_eq_mem,
      decide_eq_false_iff_not] at found
    refine iff_of_false nofun fun all => ?_
    exact found.2 (all spec (List.mem_of_find?_eq_some missing) found.1)

/-- Records are accepted one by one. -/
theorem verifyRecords_eq_ok_iff (s : Schema) (path : String) (rs : List Record) :
    verifyRecords s path rs = .ok () ↔ ∀ r ∈ rs, verifyRecord s path r = .ok () := by
  induction rs with
  | nil => simp [verifyRecords]
  | cons r rs ih =>
    have step : verifyRecords s path (r :: rs)
        = (verifyRecord s path r >>= fun _ => verifyRecords s path rs) := by
      rw [verifyRecords, verifyRecord, bind_assoc]
    rw [step, bind_eq_ok, List.forall_mem_cons, ← ih]
    exact ⟨fun ⟨_, first, rest⟩ => ⟨first, rest⟩, fun ⟨first, rest⟩ => ⟨(), first, rest⟩⟩

/-- A value is accepted when the records in it are. -/
theorem verifyValue_eq_ok_iff (s : Schema) (path : String) (v : Value) :
    verifyValue s path v = .ok () ↔ ∀ r ∈ v.subrecords, verifyRecord s path r = .ok () := by
  cases v with
  | record r =>
    rw [verifyValue, Value.subrecords, List.forall_mem_singleton]
    rfl
  | records rs => rw [verifyValue, Value.subrecords, verifyRecords_eq_ok_iff]
  | _ => simp [verifyValue, Value.subrecords]

/-- A field that the schema does not know is skipped. -/
theorem verifyField_of_none {s : Schema} {f : Field} (h : s.ofTag? f.tag = none) (path : String)
    (seen : List UInt16) : verifyField s path seen f = .ok seen := by
  obtain ⟨tag, value⟩ := f
  unfold verifyField
  rw [h]

/-- A field of the schema is accepted if it is met for the first time, has the kind and holds
records that are accepted. Its tag is met from then on. -/
theorem verifyField_eq_ok_iff {s : Schema} {f : Field} {spec : FieldSpec}
    (h : s.ofTag? f.tag = some spec) (path : String) (seen seen' : List UInt16) :
    verifyField s path seen f = .ok seen' ↔
      f.tag ∉ seen ∧ f.value.kind = spec.kind ∧
      (∀ r ∈ f.value.subrecords,
        verifyRecord spec.nested (childPath path spec.name) r = .ok ()) ∧
      seen' = f.tag :: seen := by
  obtain ⟨tag, value⟩ := f
  unfold verifyField
  dsimp only at h ⊢
  rw [h]
  dsimp only
  by_cases met : tag ∈ seen
  · simp [met]
  · rw [if_neg (by simpa using met)]
    by_cases kind : value.kind = spec.kind
    · rw [if_neg (not_not_intro kind), bind_eq_ok]
      constructor
      · rintro ⟨⟨⟩, sub, last⟩
        rw [verifyValue_eq_ok_iff] at sub
        cases last
        exact ⟨met, kind, sub, rfl⟩
      · rintro ⟨-, -, sub, rfl⟩
        exact ⟨(), (verifyValue_eq_ok_iff ..).mpr sub, rfl⟩
    · rw [if_pos kind]
      exact iff_of_false nofun fun all => kind all.2.1

/-- The walk succeeds if no tag of the schema is met twice, there or before, and every field of the
schema has the kind and holds records that are accepted. It answers the tags it has met. -/
theorem verifyFields_eq_ok_iff (s : Schema) (path : String) (seen seen' : List UInt16)
    (fs : List Field) :
    verifyFields s path seen fs = .ok seen' ↔
      (s.knownTags fs).Nodup ∧ (∀ tag ∈ s.knownTags fs, tag ∉ seen) ∧
      (∀ f ∈ fs, ∀ spec, s.ofTag? f.tag = some spec → f.value.kind = spec.kind ∧
        ∀ r ∈ f.value.subrecords,
          verifyRecord spec.nested (childPath path spec.name) r = .ok ()) ∧
      seen' = (s.knownTags fs).reverse ++ seen := by
  -- along the fields; the tags that were met are carried, so they change with them
  induction fs generalizing seen with
  | nil =>
    unfold verifyFields
    simp [eq_comm]
  | cons f fs ih =>
    unfold verifyFields
    rw [bind_eq_ok]
    cases known : s.ofTag? f.tag with
    | none =>
      -- the field adds no tag and no condition
      simp only [verifyField_of_none known, Except.ok.injEq, exists_eq_left', ih,
        s.knownTags_cons_of_none known, List.forall_mem_cons, known, reduceCtorEq, false_implies,
        implies_true, true_and]
    | some spec =>
      simp only [verifyField_eq_ok_iff known, ih, s.knownTags_cons_of_some known, List.nodup_cons,
        List.forall_mem_cons, known, Option.some.injEq, forall_eq', List.reverse_cons,
        List.append_assoc, List.singleton_append]
      constructor
      · -- what is behind the field is apart from `seen` and from the field's own tag
        rintro ⟨met, ⟨new, kind, sub, rfl⟩, nodup, apart, rest, last⟩
        refine ⟨⟨fun again => apart f.tag again List.mem_cons_self, nodup⟩,
          ⟨new, fun tag mem old => apart tag mem (List.mem_cons_of_mem _ old)⟩,
          ⟨⟨kind, sub⟩, rest⟩, last⟩
      · rintro ⟨⟨fresh, nodup⟩, ⟨new, apart⟩, ⟨⟨kind, sub⟩, rest⟩, last⟩
        refine ⟨_, ⟨new, kind, sub, rfl⟩, nodup, fun tag mem old => ?_, rest, last⟩
        rcases List.mem_cons.mp old with rfl | old
        · exact fresh mem
        · exact apart tag mem old

/-- A record is accepted if its top level is in order and the records in it are accepted. -/
theorem verifyRecord_eq_ok_iff_level (s : Schema) (path : String) (r : Record) :
    verifyRecord s path r = .ok () ↔
      FollowsLevel s r ∧
      ∀ f ∈ r, ∀ spec, s.ofTag? f.tag = some spec → ∀ r' ∈ f.value.subrecords,
        verifyRecord spec.nested (childPath path spec.name) r' = .ok () := by
  rw [verifyRecord, bind_eq_ok]
  constructor
  · -- the walk starts without tags, so it has met those of the record in the end
    rintro ⟨seen, walk, present⟩
    rw [verifyFields_eq_ok_iff] at walk
    obtain ⟨nodup, -, fields, rfl⟩ := walk
    rw [Schema.checkPresent_eq_ok_iff] at present
    refine ⟨⟨nodup, fun f mem spec known => (fields f mem spec known).1, fun spec mem must => ?_⟩,
      fun f mem spec known => (fields f mem spec known).2⟩
    have met := present spec mem must
    rw [List.append_nil, List.mem_reverse] at met
    exact (Schema.mem_knownTags mem r).mp met
  · rintro ⟨level, sub⟩
    refine ⟨(s.knownTags r).reverse ++ [], (verifyFields_eq_ok_iff ..).mpr
      ⟨level.once, fun _ _ => List.not_mem_nil, fun f mem spec known =>
        ⟨level.kinds f mem spec known, sub f mem spec known⟩, rfl⟩, ?_⟩
    refine (Schema.checkPresent_eq_ok_iff ..).mpr fun spec mem must => ?_
    rw [List.append_nil, List.mem_reverse]
    exact (Schema.mem_knownTags mem r).mpr (level.present spec mem must)

/-- A record in a value is no longer than the data of the value. -/
theorem length_subrecord_le {v : Value} {r : Record} (sub : r ∈ v.subrecords) :
    r.encode.length ≤ v.data.length := by
  cases v with
  | record inner =>
    rw [Value.subrecords, List.mem_singleton] at sub
    exact Nat.le_of_eq (congrArg (fun r => (Record.encode r).length) sub)
  | records inner =>
    rw [Value.subrecords] at sub
    have := length_record_le sub
    rw [data_records, List.length_append]
    omega
  | _ => exact absurd sub List.not_mem_nil

/-- A record in a field is shorter than the record around it. -/
theorem length_subrecord_lt {r r' : Record} {f : Field} (mem : f ∈ r)
    (sub : r' ∈ f.value.subrecords) : r'.encode.length < r.encode.length := by
  have outer := length_data_le mem
  have inner := length_subrecord_le sub
  rw [length_record r]
  omega

/-- **The check accepts a record exactly when it follows the schema.** -/
theorem verifyRecord_eq_ok_iff (s : Schema) (path : String) (r : Record) :
    verifyRecord s path r = .ok () ↔ Follows s r := by
  constructor
  · intro accepted
    -- on the length of the written form, which a nested record falls short of
    induction length : r.encode.length using Nat.strongRecOn generalizing s path r with
    | _ n ih =>
      subst length
      obtain ⟨level, sub⟩ := (verifyRecord_eq_ok_iff_level ..).mp accepted
      exact .intro level fun f mem spec known r' mem' =>
        ih _ (length_subrecord_lt mem mem') _ _ _ (sub f mem spec known r' mem') rfl
  · intro follows
    induction follows generalizing path with
    | intro level nested ih =>
      exact (verifyRecord_eq_ok_iff_level ..).mpr
        ⟨level, fun f mem spec known r' mem' => ih f mem spec known r' mem' _⟩

/-! ## Records that fill a schema -/

/-- A field fills a place of a schema: it has the tag and the kind, and the records in it follow. -/
structure Fills (spec : FieldSpec) (f : Field) : Prop where
  tag : f.tag = spec.tag
  kind : f.value.kind = spec.kind
  nested : ∀ r ∈ f.value.subrecords, Follows spec.nested r

@[simp] theorem fills_iff (spec : FieldSpec) (f : Field) :
    Fills spec f ↔ f.tag = spec.tag ∧ f.value.kind = spec.kind ∧
      ∀ r ∈ f.value.subrecords, Follows spec.nested r :=
  ⟨fun h => ⟨h.tag, h.kind, h.nested⟩, fun h => ⟨h.1, h.2.1, h.2.2⟩⟩

/-- If no two fields of a schema share a tag, each answers to its own. -/
theorem Schema.ofTag?_of_mem {s : Schema} (distinct : (s.map (·.tag)).Nodup) {spec : FieldSpec}
    (h : spec ∈ s) : s.ofTag? spec.tag = some spec := by
  induction s with
  | nil => exact absurd h List.not_mem_nil
  | cons first s ih =>
    rw [List.map_cons, List.nodup_cons] at distinct
    rcases List.mem_cons.mp h with rfl | later
    · exact List.find?_cons_of_pos (beq_self_eq_true _)
    · have other : ¬(first.tag == spec.tag) = true := fun same =>
        distinct.1 (eq_of_beq same ▸ List.mem_map_of_mem later)
      have passed : ofTag? (first :: s) spec.tag = ofTag? s spec.tag :=
        List.find?_cons_of_neg other
      rw [passed, ih distinct.2 later]

/-- A record with every field of a schema, in its order, follows it. -/
theorem Follows.of_fills {s : Schema} {r : Record} (distinct : (s.map (·.tag)).Nodup)
    (fields : List.Forall₂ Fills s r) : Follows s r := by
  have tags : r.map (·.tag) = s.map (·.tag) := by
    induction fields with
    | nil => rfl
    | cons fills _ ih =>
      rw [List.map_cons, List.nodup_cons] at distinct
      rw [List.map_cons, List.map_cons, fills.tag, ih distinct.2]
  have fills : ∀ f ∈ r, ∀ spec, s.ofTag? f.tag = some spec → Fills spec f := by
    intro f mem spec known
    -- the place of the field is the place in the schema that answers to its tag
    obtain ⟨i, inside, rfl⟩ := List.mem_iff_getElem.mp mem
    have inside' : i < s.length := fields.length_eq ▸ inside
    have place : Fills s[i] r[i] := fields.get inside' inside
    rw [place.tag, Schema.ofTag?_of_mem distinct (List.getElem_mem _)] at known
    cases known
    exact place
  refine .intro ⟨?_, fun f mem spec known => (fills f mem spec known).kind, fun spec mem _ => ?_⟩
    fun f mem spec known => (fills f mem spec known).nested
  · rw [Schema.knownTags, tags]
    exact distinct.filter _
  · rw [tags]
    exact List.mem_map_of_mem mem

end ComputePlanner
