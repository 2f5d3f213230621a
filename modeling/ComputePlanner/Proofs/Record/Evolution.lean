import ComputePlanner.Proofs.Record.Conformance
import ComputePlanner.Record.Access

/-! # What a schema leaves open
Writers of different versions agree on the fields of a schema and on nothing else: the order of the
fields, and fields that the schema does not know, are theirs. **`Alike`** relates records that
differ in no other way, at any depth.

A reader that asks for fields by tag sees only the **projection** of a record: for each field of the
schema, in the schema's order, the first field with its tag, the records in it projected in turn
(`Schema.project`). Reading from the projection is reading from the record (`fetch_project`,
`bind_records_project`), and alike records that follow the schema have the same projection
(**`Alike.follows_iff_and_project_eq`**). So no reader can tell them apart.

Main definitions: **`Alike`**, **`Schema.project`**. -/

namespace ComputePlanner

/-! ## Fields by tag -/

namespace Record

/-- The first field answers to its own tag; every other tag is looked for behind it. -/
theorem get?_cons (f : Field) (r : Record) (tag : UInt16) :
    Record.get? (f :: r) tag = if f.tag = tag then some f.value else r.get? tag := by
  by_cases same : f.tag = tag
  · have found : List.find? (·.tag == tag) (f :: r) = some f :=
      List.find?_cons_of_pos (beq_iff_eq.mpr same)
    rw [if_pos same, get?, found, Option.map_some]
  · have passed : List.find? (·.tag == tag) (f :: r) = r.find? (·.tag == tag) :=
      List.find?_cons_of_neg (by simpa using same)
    rw [if_neg same, get?, passed, get?]

/-- The record without the fields of a tag. -/
def without (r : Record) (tag : UInt16) : Record := r.filter (·.tag != tag)

/-- A tag is gone from the record without it. -/
@[simp] theorem get?_without_self (r : Record) (tag : UInt16) :
    (r.without tag).get? tag = none := by
  rw [get?, without, List.find?_filter, Option.map_eq_none_iff, List.find?_eq_none]
  simp

/-- Every other tag is still there. -/
theorem get?_without_of_ne (r : Record) {tag other : UInt16} (h : other ≠ tag) :
    (r.without tag).get? other = r.get? other := by
  induction r with
  | nil => rfl
  | cons f r ih =>
    by_cases same : f.tag = tag
    · have dropped : Record.without (f :: r) tag = Record.without r tag :=
        List.filter_cons_of_neg (by simpa using same)
      -- a field that is dropped does not have the other tag
      have other : f.tag ≠ other := same ▸ Ne.symm h
      rw [dropped, ih, get?_cons, if_neg other]
    · have kept : Record.without (f :: r) tag = f :: Record.without r tag :=
        List.filter_cons_of_pos (by simpa using same)
      rw [kept, get?_cons, get?_cons, ih]

/-- In a record that has the tags of a schema once, a field of such a tag is the one that answers to
it. -/
theorem get?_eq_some_iff {s : Schema} {r : Record} (once : (s.knownTags r).Nodup) {tag : UInt16}
    (known : s.knows tag = true) (v : Value) : r.get? tag = some v ↔ ⟨tag, v⟩ ∈ r := by
  induction r with
  | nil => exact iff_of_false nofun List.not_mem_nil
  | cons f r ih =>
    rw [get?_cons, List.mem_cons]
    by_cases same : f.tag = tag
    · rw [if_pos same, Option.some.injEq]
      subst same
      obtain ⟨spec, found⟩ := Option.isSome_iff_exists.mp known
      rw [Schema.knownTags_cons_of_some found, List.nodup_cons] at once
      -- the tag is not there again, so the field in front is the only one
      have absent : (⟨f.tag, v⟩ : Field) ∉ r := fun again => once.1 <|
        List.mem_filter.mpr ⟨List.mem_map.mpr ⟨_, again, rfl⟩, known⟩
      rw [or_iff_left absent]
      obtain ⟨tag, value⟩ := f
      simp [eq_comm]
    · have rest : (s.knownTags r).Nodup :=
        once.sublist (((List.sublist_cons_self f r).map _).filter _)
      have other : (⟨tag, v⟩ : Field) ≠ f := fun eq => same (congrArg Field.tag eq).symm
      rw [if_neg same, ih rest, or_iff_right other]

end Record

/-! ## Projection -/

/-- A value with each record in it changed. -/
def Value.mapRecords (g : Record → Record) : Value → Value
  | .record r => .record (g r)
  | .records rs => .records (rs.map g)
  | v => v

/-- The kind of a value is not that of the records in it. -/
@[simp] theorem Value.kind_mapRecords (g : Record → Record) (v : Value) :
    (v.mapRecords g).kind = v.kind := by
  cases v <;> rfl

mutual

/-- The projection of a record: the first field of each tag of the schema, in its order. -/
def Schema.project : Schema → Record → Record
  | [], _ => []
  | spec :: specs, r =>
    ((r.get? spec.tag).map fun v => ⟨spec.tag, spec.projectValue v⟩).toList
      ++ Schema.project specs (r.without spec.tag)

/-- The projection of a value: the records in it are projected. -/
def FieldSpec.projectValue : FieldSpec → Value → Value
  | ⟨_, _, _, _, nested⟩, v => v.mapRecords fun r => Schema.project nested r

end

/-- The records in a field are projected to the field's own schema. -/
theorem FieldSpec.projectValue_eq (spec : FieldSpec) (v : Value) :
    spec.projectValue v = v.mapRecords (Schema.project spec.nested) := by
  cases spec
  rfl

namespace Schema

/-- The first place of the schema answers to its own tag; every other is looked for behind it. -/
theorem ofTag?_cons (spec : FieldSpec) (s : Schema) (tag : UInt16) :
    ofTag? (spec :: s) tag = if spec.tag = tag then some spec else ofTag? s tag := by
  by_cases same : spec.tag = tag
  · rw [if_pos same]
    exact List.find?_cons_of_pos (beq_iff_eq.mpr same)
  · rw [if_neg same]
    exact List.find?_cons_of_neg (by simpa using same)

/-- The projection has the fields of the schema that the record has. -/
theorem get?_project (s : Schema) (r : Record) (tag : UInt16) :
    (s.project r).get? tag
      = (s.ofTag? tag).bind fun spec => (r.get? tag).map spec.projectValue := by
  -- behind a place of the schema its tag is gone from the record, so `r` changes with `s`
  induction s generalizing r with
  | nil => rfl
  | cons spec s ih =>
    rw [project, ofTag?_cons]
    by_cases same : spec.tag = tag
    · rw [if_pos same, same, Option.bind_some]
      cases r.get? tag with
      | some v =>
        rw [Option.map_some, Option.toList_some, List.singleton_append, Record.get?_cons,
          if_pos rfl]
        rfl
      | none =>
        rw [Option.map_none, Option.toList_none, List.nil_append, ih, Record.get?_without_self]
        cases ofTag? s tag <;> rfl
    · rw [if_neg same, ← Record.get?_without_of_ne r (Ne.symm same), ← ih]
      cases r.get? spec.tag with
      | some v =>
        rw [Option.map_some, Option.toList_some, List.singleton_append, Record.get?_cons,
          if_neg same]
      | none => rw [Option.map_none, Option.toList_none, List.nil_append]

/-- Records with the same fields of the schema, up to projection, have the same projection. -/
theorem project_congr {s : Schema} {r r' : Record}
    (h : ∀ tag spec, s.ofTag? tag = some spec →
      (r.get? tag).map spec.projectValue = (r'.get? tag).map spec.projectValue) :
    s.project r = s.project r' := by
  induction s generalizing r r' with
  | nil => rfl
  | cons spec s ih =>
    have first := h spec.tag spec (by rw [ofTag?_cons, if_pos rfl])
    -- later places of a tag that was met see nothing, in either record
    have rest : project s (r.without spec.tag) = project s (r'.without spec.tag) := by
      refine ih fun tag spec' found => ?_
      by_cases same : tag = spec.tag
      · rw [same, Record.get?_without_self, Record.get?_without_self]
      · rw [Record.get?_without_of_ne r same, Record.get?_without_of_ne r' same]
        exact h tag spec' (by rw [ofTag?_cons, if_neg (Ne.symm same), found])
    have field : ∀ o : Option Value, (o.map fun v => (⟨spec.tag, spec.projectValue v⟩ : Field))
        = (o.map spec.projectValue).map fun v => ⟨spec.tag, v⟩ := fun o => by
      rw [Option.map_map]
      rfl
    rw [project, project, rest, field, field, first]

end Schema

/-! ## Reading from the projection -/

/-- The schema of the records in the field of a tag. -/
def Schema.below (s : Schema) (tag : UInt16) : Schema := (s.ofTag? tag).elim [] (·.nested)

/-- It is the one nested in the field that answers to the tag. -/
theorem Schema.below_eq {s : Schema} {tag : UInt16} {spec : FieldSpec}
    (found : s.ofTag? tag = some spec) : s.below tag = spec.nested := by
  rw [below, found, Option.elim_some]

namespace Record

variable {s : Schema} {tag : UInt16}

/-- A view of values that keeps the records in them apart sees the same in the projection. -/
theorem fetch_project {view view' : Value → Option α} (known : s.knows tag = true)
    (same : ∀ v, view (v.mapRecords (s.below tag).project) = view' v) (r : Record) (kind : Kind)
    (absent : α) : (s.project r).fetch tag kind view absent = r.fetch tag kind view' absent := by
  obtain ⟨spec, found⟩ := Option.isSome_iff_exists.mp known
  have nested := Schema.below_eq found
  rw [fetch, fetch, Schema.get?_project, found, Option.bind_some]
  cases r.get? tag with
  | none => rfl
  | some v =>
    -- projecting keeps the kind, so the check of the kind is passed by both or by neither
    rw [Option.map_some, FieldSpec.projectValue_eq, ← nested]
    dsimp only
    rw [same, Value.kind_mapRecords]

/-- A byte is read from the projection as from the record; so are the other kinds. -/
theorem u8_project (known : s.knows tag = true) (r : Record) : (s.project r).u8 tag = r.u8 tag :=
  fetch_project known (fun v => by cases v <;> rfl) r _ _

/-- A 16-bit word. -/
theorem u16_project (known : s.knows tag = true) (r : Record) : (s.project r).u16 tag = r.u16 tag :=
  fetch_project known (fun v => by cases v <;> rfl) r _ _

/-- A 32-bit word. -/
theorem u32_project (known : s.knows tag = true) (r : Record) : (s.project r).u32 tag = r.u32 tag :=
  fetch_project known (fun v => by cases v <;> rfl) r _ _

/-- A 64-bit word. -/
theorem u64_project (known : s.knows tag = true) (r : Record) : (s.project r).u64 tag = r.u64 tag :=
  fetch_project known (fun v => by cases v <;> rfl) r _ _

/-- A flag. -/
theorem bool_project (known : s.knows tag = true) (r : Record) :
    (s.project r).bool tag = r.bool tag :=
  fetch_project known (fun v => by cases v <;> rfl) r _ _

/-- A text. -/
theorem text_project (known : s.knows tag = true) (r : Record) :
    (s.project r).text tag = r.text tag :=
  fetch_project known (fun v => by cases v <;> rfl) r _ _

/-- A byte string. -/
theorem bytes_project (known : s.knows tag = true) (r : Record) :
    (s.project r).bytes tag = r.bytes tag :=
  fetch_project known (fun v => by cases v <;> rfl) r _ _

/-- A list of words. -/
theorem words_project (known : s.knows tag = true) (r : Record) :
    (s.project r).words tag = r.words tag :=
  fetch_project known (fun v => by cases v <;> rfl) r _ _

/-- A list of texts. -/
theorem texts_project (known : s.knows tag = true) (r : Record) :
    (s.project r).texts tag = r.texts tag :=
  fetch_project known (fun v => by cases v <;> rfl) r _ _

/-- To change what is seen of a value is to change what was read. -/
theorem fetch_map (f : α → β) (view : Value → Option α) (absent : α) (r : Record) (kind : Kind) :
    r.fetch tag kind (fun v => (view v).map f) (f absent)
      = (r.fetch tag kind view absent).map f := by
  rw [fetch, fetch]
  cases r.get? tag with
  | none => rfl
  | some v =>
    dsimp only
    cases view v <;> rfl

/-- A nested record, which is projected. -/
theorem record?_project (known : s.knows tag = true) (r : Record) :
    (s.project r).record? tag = (r.record? tag).map (Option.map (s.below tag).project) := by
  rw [record?, record?, ← fetch_map]
  exact fetch_project known (fun v => by cases v <;> rfl) r _ _

/-- A list of records, which are projected. -/
theorem records_project (known : s.knows tag = true) (r : Record) :
    (s.project r).records tag = (r.records tag).map (List.map (s.below tag).project) := by
  rw [records, records, ← fetch_map]
  exact fetch_project known (fun v => by cases v <;> rfl) r _ _

end Record

/-! ## Alike records -/

/-- Records that differ only in the order of the fields and in fields the schema does not know, here
or in the records nested in its fields. -/
inductive Alike : Schema → Record → Record → Prop
  /-- The fields are in another order. -/
  | reordered {s : Schema} {r r' : Record} (perm : r.Perm r') : Alike s r r'
  /-- There is one more field, which the schema does not know. -/
  | extended {s : Schema} {r : Record} (f : Field) (unknown : s.ofTag? f.tag = none) :
    Alike s r (f :: r)
  /-- A record in a field is replaced by one alike. -/
  | inRecord {s : Schema} {spec : FieldSpec} {tag : UInt16} {r r' : Record} (rest : Record)
    (known : s.ofTag? tag = some spec) (alike : Alike spec.nested r r') :
    Alike s (⟨tag, .record r⟩ :: rest) (⟨tag, .record r'⟩ :: rest)
  /-- A record of a list is replaced by one alike. -/
  | inRecords {s : Schema} {spec : FieldSpec} {tag : UInt16} {r r' : Record}
    (before after : List Record) (rest : Record) (known : s.ofTag? tag = some spec)
    (alike : Alike spec.nested r r') :
    Alike s (⟨tag, .records (before ++ r :: after)⟩ :: rest)
      (⟨tag, .records (before ++ r' :: after)⟩ :: rest)
  /-- The difference is seen from the other side. -/
  | symm {s : Schema} {r r' : Record} (alike : Alike s r r') : Alike s r' r
  /-- One difference comes after the other. -/
  | trans {s : Schema} {r r' r'' : Record} (first : Alike s r r') (next : Alike s r' r'') :
    Alike s r r''

section Changes

variable {s : Schema}

/-- The order of the fields does not matter for what a level needs. -/
theorem FollowsLevel.perm {r r' : Record} (perm : r.Perm r') (level : FollowsLevel s r) :
    FollowsLevel s r' where
  once := ((perm.map _).filter _).nodup level.once
  kinds f mem := level.kinds f (perm.mem_iff.mpr mem)
  present spec mem must := (perm.map _).subset (level.present spec mem must)

/-- The order of the fields does not matter. -/
theorem Follows.perm {r r' : Record} (perm : r.Perm r') (h : Follows s r) : Follows s r' :=
  .intro (h.level.perm perm) fun _ mem _ known _ sub => h.nested (perm.mem_iff.mpr mem) known sub

/-- A field that the schema does not know does not matter. -/
theorem follows_cons_of_none {f : Field} (unknown : s.ofTag? f.tag = none) (r : Record) :
    Follows s (f :: r) ↔ Follows s r := by
  constructor
  · -- a mandatory tag is one of the schema, so it was not met in the field that goes
    intro h
    refine .intro ⟨?_, fun g mem => h.level.kinds g (List.mem_cons_of_mem _ mem), ?_⟩
      fun g mem spec known r' sub => h.nested (List.mem_cons_of_mem _ mem) known sub
    · rw [← Schema.knownTags_cons_of_none unknown]
      exact h.level.once
    · intro spec mem must
      have met := h.level.present spec mem must
      rwa [← Schema.mem_knownTags mem, Schema.knownTags_cons_of_none unknown,
        Schema.mem_knownTags mem] at met
  · intro h
    refine .intro ⟨?_, ?_, ?_⟩ ?_
    · rw [Schema.knownTags_cons_of_none unknown]
      exact h.level.once
    · intro g mem spec known
      rcases List.mem_cons.mp mem with rfl | mem
      · rw [unknown] at known
        cases known
      · exact h.level.kinds g mem spec known
    · intro spec mem must
      exact List.mem_cons_of_mem _ (h.level.present spec mem must)
    · intro g mem spec known r' sub
      rcases List.mem_cons.mp mem with rfl | mem
      · rw [unknown] at known
        cases known
      · exact h.nested mem known sub

/-- A value of a field may be replaced by one of the same kind, if the records in it follow. -/
theorem Follows.replace {tag : UInt16} {v v' : Value} {r : Record}
    (h : Follows s (⟨tag, v⟩ :: r)) (kind : v'.kind = v.kind)
    (nested : ∀ spec, s.ofTag? tag = some spec → ∀ r' ∈ v'.subrecords, Follows spec.nested r') :
    Follows s (⟨tag, v'⟩ :: r) := by
  refine .intro ⟨h.level.once, ?_, h.level.present⟩ ?_
  · intro g mem spec known
    rcases List.mem_cons.mp mem with rfl | mem
    · exact kind.trans (h.level.kinds _ List.mem_cons_self spec known)
    · exact h.level.kinds g (List.mem_cons_of_mem _ mem) spec known
  · intro g mem spec known r' sub
    rcases List.mem_cons.mp mem with rfl | mem
    · exact nested spec known r' sub
    · exact h.nested (List.mem_cons_of_mem _ mem) known sub

/-- In a record that has the tags of the schema once, the order does not matter for the
projection. -/
theorem project_perm {r r' : Record} (perm : r.Perm r') (level : FollowsLevel s r) :
    s.project r = s.project r' := by
  -- the first field of a tag is the only one, and a permutation has the same fields
  refine Schema.project_congr fun tag spec found => congrArg _ (Option.ext fun v => ?_)
  have known : s.knows tag = true := by rw [Schema.knows, found, Option.isSome_some]
  rw [Record.get?_eq_some_iff level.once known,
    Record.get?_eq_some_iff (level.perm perm).once known, perm.mem_iff]

/-- A field that the schema does not know is not in the projection. -/
theorem project_cons_of_none {f : Field} (unknown : s.ofTag? f.tag = none) (r : Record) :
    s.project (f :: r) = s.project r := by
  refine Schema.project_congr fun tag spec found => ?_
  have other : f.tag ≠ tag := by
    rintro rfl
    rw [unknown] at found
    cases found
  rw [Record.get?_cons, if_neg other]

/-- A value whose projection is the same makes no difference for the projection of the record. -/
theorem project_replace {tag : UInt16} {spec : FieldSpec} (known : s.ofTag? tag = some spec)
    {v v' : Value} (same : spec.projectValue v = spec.projectValue v') (r : Record) :
    s.project (⟨tag, v⟩ :: r) = s.project (⟨tag, v'⟩ :: r) := by
  refine Schema.project_congr fun tag' spec' found => ?_
  rw [Record.get?_cons, Record.get?_cons]
  by_cases here : tag = tag'
  · rw [← here, known, Option.some.injEq] at found
    rw [if_pos here, if_pos here, Option.map_some, Option.map_some, ← found, same]
  · rw [if_neg here, if_neg here]

/-- If the records in two values of a kind follow alike, and then the values have the same
projection, so do the records around them. -/
theorem follows_and_project_replace {tag : UInt16} {spec : FieldSpec}
    (known : s.ofTag? tag = some spec) {v v' : Value} (kind : v.kind = v'.kind)
    (follows : (∀ r ∈ v.subrecords, Follows spec.nested r) ↔
      ∀ r ∈ v'.subrecords, Follows spec.nested r)
    (same : (∀ r ∈ v.subrecords, Follows spec.nested r) →
      spec.projectValue v = spec.projectValue v') (rest : Record) :
    (Follows s (⟨tag, v⟩ :: rest) ↔ Follows s (⟨tag, v'⟩ :: rest)) ∧
    (Follows s (⟨tag, v⟩ :: rest) →
      s.project (⟨tag, v⟩ :: rest) = s.project (⟨tag, v'⟩ :: rest)) := by
  have inside : ∀ w, Follows s (⟨tag, w⟩ :: rest) → ∀ r ∈ w.subrecords, Follows spec.nested r :=
    fun w h r sub => h.nested List.mem_cons_self known sub
  refine ⟨⟨fun h => h.replace kind.symm ?_, fun h => h.replace kind ?_⟩,
    fun h => project_replace known (same (inside v h)) rest⟩
  · intro spec' found
    rw [known, Option.some.injEq] at found
    exact found ▸ follows.mp (inside v h)
  · intro spec' found
    rw [known, Option.some.injEq] at found
    exact found ▸ follows.mpr (inside v' h)

end Changes

/-- **Alike records follow the schema alike**, and then they have the same projection. -/
theorem Alike.follows_iff_and_project_eq {s : Schema} {r r' : Record} (h : Alike s r r') :
    (Follows s r ↔ Follows s r') ∧ (Follows s r → s.project r = s.project r') := by
  -- both at once: a difference in a nested record is carried outwards by both of them
  induction h with
  | reordered perm =>
    exact ⟨⟨.perm perm, .perm perm.symm⟩, fun follows => project_perm perm follows.level⟩
  | extended f unknown =>
    exact ⟨(follows_cons_of_none unknown _).symm, fun _ => (project_cons_of_none unknown _).symm⟩
  | @inRecord s spec tag r r' rest known _ ih =>
    refine follows_and_project_replace known ?_ ?_ ?_ rest
    · rfl
    · rw [Value.subrecords, Value.subrecords, List.forall_mem_singleton,
        List.forall_mem_singleton, ih.1]
    · intro follows
      rw [FieldSpec.projectValue_eq, FieldSpec.projectValue_eq, Value.mapRecords, Value.mapRecords,
        ih.2 (follows r List.mem_cons_self)]
  | @inRecords s spec tag r r' before after rest known _ ih =>
    refine follows_and_project_replace known ?_ ?_ ?_ rest
    · rfl
    · rw [Value.subrecords, Value.subrecords, List.forall_mem_append, List.forall_mem_append,
        List.forall_mem_cons, List.forall_mem_cons, ih.1]
    · intro follows
      have here : r ∈ before ++ r :: after := List.mem_append_right _ List.mem_cons_self
      rw [FieldSpec.projectValue_eq, FieldSpec.projectValue_eq, Value.mapRecords, Value.mapRecords,
        List.map_append, List.map_append, List.map_cons, List.map_cons, ih.2 (follows r here)]
  | symm _ ih => exact ⟨ih.1.symm, fun follows => (ih.2 (ih.1.mpr follows)).symm⟩
  | trans _ _ ih ih' =>
    exact ⟨ih.1.trans ih'.1, fun follows => (ih.2 follows).trans (ih'.2 (ih.1.mp follows))⟩

end ComputePlanner
