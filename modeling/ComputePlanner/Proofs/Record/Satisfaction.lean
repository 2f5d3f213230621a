import ComputePlanner.Proofs.Record.Conformance
import Mathlib.Data.List.Count

/-! # What a schema asks for
A schema asks something of every record it is held against, field by field: that the field is there
at most once and with its kind, and at least once if it is mandatory, and that the records in it
satisfy the schema below. **`Satisfies`** says so without a walk over the record and without looking
a tag up, so it can be read off the schema. As long as no level of a schema uses a tag twice, it is
what the check accepts (**`verifyRecord_eq_ok_iff_satisfies`**). If the check refuses a record, the
fault is about a field of the schema at the level where it was found (`error_of_verifyRecord`).

Main definitions: **`Schema.Everywhere`**, **`Satisfies`**. -/

namespace ComputePlanner

/-! ## Levels of a schema -/

namespace Schema

/-- A condition on a level holds of a schema and of every schema nested in it. -/
inductive Everywhere (p : Schema → Prop) : Schema → Prop
  | intro {s : Schema} (level : p s) (nested : ∀ spec ∈ s, Everywhere p spec.nested) :
    Everywhere p s

/-- The top level. -/
theorem Everywhere.level {p : Schema → Prop} {s : Schema} (h : s.Everywhere p) : p s := by
  cases h with
  | intro level nested => exact level

/-- The levels below. -/
theorem Everywhere.nested {p : Schema → Prop} {s : Schema} (h : s.Everywhere p) {spec : FieldSpec}
    (mem : spec ∈ s) : Everywhere p spec.nested := by
  cases h with
  | intro level nested => exact nested spec mem

mutual

/-- Whether a condition holds of the schema nested in a field, and everywhere in it. -/
def nestedMeets (p : Schema → Prop) [DecidablePred p] : FieldSpec → Bool
  | ⟨_, _, _, _, nested⟩ => decide (p nested) && allNestedMeet p nested

/-- Whether it does so for every one of some fields. -/
def allNestedMeet (p : Schema → Prop) [DecidablePred p] : List FieldSpec → Bool
  | [] => true
  | spec :: specs => nestedMeets p spec && allNestedMeet p specs

end

section Check

variable {p : Schema → Prop} [DecidablePred p]

mutual

/-- What was found to hold of a nested schema does. -/
theorem everywhere_of_nestedMeets :
    (spec : FieldSpec) → nestedMeets p spec = true → Everywhere p spec.nested
  | ⟨_, _, _, _, nested⟩, met => by
    rw [nestedMeets, Bool.and_eq_true, decide_eq_true_iff] at met
    exact .intro met.1 (everywhere_of_allNestedMeet nested met.2)

/-- So does what was found to hold of all. -/
theorem everywhere_of_allNestedMeet :
    (specs : List FieldSpec) → allNestedMeet p specs = true →
      ∀ spec ∈ specs, Everywhere p spec.nested
  | [], _ => fun _ mem => absurd mem List.not_mem_nil
  | spec :: specs, met => by
    rw [allNestedMeet, Bool.and_eq_true] at met
    exact List.forall_mem_cons.mpr
      ⟨everywhere_of_nestedMeets spec met.1, everywhere_of_allNestedMeet specs met.2⟩

end

/-- A schema can be searched for a level at which a condition fails. -/
theorem everywhere_of_check {s : Schema} (met : (decide (p s) && allNestedMeet p s) = true) :
    s.Everywhere p := by
  rw [Bool.and_eq_true, decide_eq_true_iff] at met
  exact .intro met.1 (everywhere_of_allNestedMeet s met.2)

end Check

/-- No level uses a tag twice. -/
abbrev DistinctTags (s : Schema) : Prop := s.Everywhere fun s => (s.map (·.tag)).Nodup

end Schema

/-! ## What is asked of a record -/

/-- What a field of a schema asks of one level of a record. -/
structure FieldSpec.SatisfiedBy (spec : FieldSpec) (r : Record) : Prop where
  /-- The field is there at most once. -/
  once : (r.map (·.tag)).count spec.tag ≤ 1
  /-- It has its kind. -/
  kind : ∀ f ∈ r, f.tag = spec.tag → f.value.kind = spec.kind
  /-- It is there if it must be. -/
  present : spec.mandatory = true → spec.tag ∈ r.map (·.tag)

/-- A record satisfies a schema if it does what every field of the schema asks, and the records in the
field do what the schema below asks. Nothing is asked of other fields. -/
inductive Satisfies : Schema → Record → Prop
  | intro {s : Schema} {r : Record} (level : ∀ spec ∈ s, spec.SatisfiedBy r)
      (nested : ∀ spec ∈ s, ∀ f ∈ r, f.tag = spec.tag →
        ∀ r' ∈ f.value.subrecords, Satisfies spec.nested r') : Satisfies s r

/-- The tags of a level are met at most once exactly if each field of the schema is there at most
once. -/
theorem nodup_knownTags_iff {s : Schema} {r : Record} :
    (s.knownTags r).Nodup ↔ ∀ spec ∈ s, (r.map (·.tag)).count spec.tag ≤ 1 := by
  rw [List.nodup_iff_count_le_one]
  constructor
  · intro once spec mem
    have count := once spec.tag
    rwa [Schema.knownTags, List.count_filter (Schema.knows_tag mem)] at count
  · intro once tag
    by_cases known : s.knows tag = true
    · obtain ⟨spec, found⟩ := Option.isSome_iff_exists.mp known
      obtain ⟨mem, rfl⟩ := Schema.mem_of_ofTag? found
      rw [Schema.knownTags, List.count_filter known]
      exact once spec mem
    · have absent : tag ∉ s.knownTags r := fun mem => known (List.mem_filter.mp mem).2
      rw [List.count_eq_zero_of_not_mem absent]
      exact Nat.zero_le 1

/-- **Following a schema is satisfying it**, if its tags are distinct. -/
theorem follows_iff_satisfies {s : Schema} (distinct : s.DistinctTags) {r : Record} :
    Follows s r ↔ Satisfies s r := by
  constructor
  · intro follows
    induction follows with
    | @intro s r level nested ih =>
      have answers {spec : FieldSpec} {f : Field} (mem : spec ∈ s) (same : f.tag = spec.tag) :
          s.ofTag? f.tag = some spec := same ▸ Schema.ofTag?_of_mem distinct.level mem
      refine .intro (fun spec mem => ⟨?_, ?_, level.present spec mem⟩) ?_
      · exact nodup_knownTags_iff.mp level.once spec mem
      · intro f field same
        exact level.kinds f field spec (answers mem same)
      · intro spec mem f field same r' sub
        exact ih f field spec (answers mem same) r' sub (distinct.nested mem)
  · intro satisfies
    induction satisfies with
    | @intro s r level nested ih =>
      refine .intro ⟨?_, ?_, fun spec mem => (level spec mem).present⟩ ?_
      · exact nodup_knownTags_iff.mpr fun spec mem => (level spec mem).once
      · intro f field spec found
        obtain ⟨mem, same⟩ := Schema.mem_of_ofTag? found
        exact (level spec mem).kind f field same.symm
      · intro f field spec found r' sub
        obtain ⟨mem, same⟩ := Schema.mem_of_ofTag? found
        exact ih spec mem f field same.symm r' sub (distinct.nested mem)

/-- **What the check accepts is what satisfies the schema**, wherever faults are named. -/
theorem verifyRecord_eq_ok_iff_satisfies {s : Schema} (distinct : s.DistinctTags) (path : String)
    (r : Record) : verifyRecord s path r = .ok () ↔ Satisfies s r :=
  (verifyRecord_eq_ok_iff s path r).trans (follows_iff_satisfies distinct)

/-! ## What a fault is about -/

namespace SchemaFault

/-- The path of the field that a fault is about. -/
def field : SchemaFault → String
  | .repeated path name => childPath path name
  | .wrongKind path name _ _ => childPath path name
  | .missing path name => childPath path name

/-- What is wrong with the field. -/
def problem : SchemaFault → String
  | .repeated _ _ => " appears twice"
  | .wrongKind _ _ expected found => s!": expected {expected.name}, found {found.name}"
  | .missing _ _ => " is missing"

/-- The wording of a fault names the field, then the problem. -/
theorem message_eq (fault : SchemaFault) : fault.message = fault.field ++ fault.problem := by
  cases fault with
  | repeated path name => rfl
  | wrongKind path name expected found =>
    unfold message field problem childPath
    simp only [String.append_assoc]
    rfl
  | missing path name => rfl

/-- A fault is about a field of a schema whose fields are named below a path. -/
def About (fault : SchemaFault) (s : Schema) (path : String) : Prop :=
  ∃ spec ∈ s, fault.field = childPath path spec.name

end SchemaFault

section Faults

variable {s : Schema} {path : String} {fault : SchemaFault}

/-- A fault of the check for mandatory fields is about one of them. -/
theorem about_of_checkPresent {seen : List UInt16} (failed : s.checkPresent path seen = .error fault) :
    fault.About s path := by
  unfold Schema.checkPresent at failed
  split at failed
  · next spec missing =>
    cases failed
    exact ⟨spec, List.mem_of_find?_eq_some missing, rfl⟩
  · cases failed

/-- Records are refused for one of them. -/
theorem error_of_verifyRecords {rs : List Record} (failed : verifyRecords s path rs = .error fault) :
    ∃ r ∈ rs, verifyRecord s path r = .error fault := by
  induction rs with
  | nil =>
    rw [verifyRecords] at failed
    cases failed
  | cons r rs ih =>
    have step : verifyRecords s path (r :: rs)
        = (verifyRecord s path r >>= fun _ => verifyRecords s path rs) := by
      rw [verifyRecords, verifyRecord, bind_assoc]
    rw [step] at failed
    rcases bind_eq_error.mp failed with first | ⟨_, -, rest⟩
    · exact ⟨r, List.mem_cons_self, first⟩
    · obtain ⟨r', mem, refused⟩ := ih rest
      exact ⟨r', List.mem_cons_of_mem _ mem, refused⟩

/-- A value is refused for a record in it. -/
theorem error_of_verifyValue {v : Value} (failed : verifyValue s path v = .error fault) :
    ∃ r ∈ v.subrecords, verifyRecord s path r = .error fault := by
  cases v with
  | record r =>
    rw [verifyValue] at failed
    exact ⟨r, List.mem_singleton_self r, failed⟩
  | records rs =>
    rw [verifyValue] at failed
    exact error_of_verifyRecords failed
  | _ => simp [verifyValue] at failed

/-- A field is refused for what it is at this level, or for a record in it. -/
theorem error_of_verifyField {seen : List UInt16} {f : Field}
    (failed : verifyField s path seen f = .error fault) :
    fault.About s path ∨ ∃ spec ∈ s, ∃ r ∈ f.value.subrecords,
      verifyRecord spec.nested (childPath path spec.name) r = .error fault := by
  obtain ⟨tag, value⟩ := f
  unfold verifyField at failed
  split at failed
  · cases failed
  · next spec found =>
    obtain ⟨mem, -⟩ := Schema.mem_of_ofTag? found
    split at failed
    · cases failed
      exact .inl ⟨spec, mem, rfl⟩
    · split at failed
      · cases failed
        exact .inl ⟨spec, mem, rfl⟩
      · rcases bind_eq_error.mp failed with inside | ⟨_, -, last⟩
        · exact .inr ⟨spec, mem, error_of_verifyValue inside⟩
        · cases last

/-- Fields are refused for one of them. -/
theorem error_of_verifyFields {seen : List UInt16} {fs : List Field}
    (failed : verifyFields s path seen fs = .error fault) :
    ∃ f ∈ fs, ∃ seen, verifyField s path seen f = .error fault := by
  induction fs generalizing seen with
  | nil =>
    rw [verifyFields] at failed
    cases failed
  | cons f fs ih =>
    rw [verifyFields] at failed
    rcases bind_eq_error.mp failed with first | ⟨_, -, rest⟩
    · exact ⟨f, List.mem_cons_self, seen, first⟩
    · obtain ⟨f', mem, refused⟩ := ih rest
      exact ⟨f', List.mem_cons_of_mem _ mem, refused⟩

/-- **A record is refused for its top level**, or for a record in one of its fields that breaks the
schema below. -/
theorem error_of_verifyRecord {r : Record} (failed : verifyRecord s path r = .error fault) :
    fault.About s path ∨ ∃ spec ∈ s, ∃ f ∈ r, ∃ r' ∈ f.value.subrecords,
      verifyRecord spec.nested (childPath path spec.name) r' = .error fault := by
  rw [verifyRecord] at failed
  rcases bind_eq_error.mp failed with walk | ⟨seen, -, missing⟩
  · obtain ⟨f, mem, seen, refused⟩ := error_of_verifyFields walk
    rcases error_of_verifyField refused with here | ⟨spec, known, r', sub, inside⟩
    · exact .inl here
    · exact .inr ⟨spec, known, f, mem, r', sub, inside⟩
  · exact .inl (about_of_checkPresent missing)

end Faults

end ComputePlanner
