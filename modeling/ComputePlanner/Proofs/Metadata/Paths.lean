import ComputePlanner.Metadata.Schema
import ComputePlanner.Proofs.Record.Satisfaction

/-! # The paths that faults name
A fault of the schema check names a field by its path: the names that lead to it, joined by arrows.
The check goes down by tag and puts a name to the path at every step; a reader that is asked whether it
knows a path takes it apart at the arrows and goes down by name. The two meet because the names of a
level are distinct and none has an arrow in it.

Main statements: **`exists_path_of_verifyRecord`**, the path of a fault leads to a field, and
**`verification`**, what the check accepts and what it names. -/

namespace ComputePlanner

/-! ## Paths and names -/

/-- In front of the first dash nothing is cut. -/
theorem splitArrows_of_plain {name : List Char} (plain : '-' ∉ name) : splitArrows name = [name] := by
  induction name with
  | nil => rfl
  | cons c name ih =>
    simp only [List.mem_cons, not_or] at plain
    rw [splitArrows, ih plain.2]
    · intro _ dash
      exact absurd dash.symm plain.1

/-- A path is cut at the first arrow. -/
theorem splitArrows_append {name : List Char} (plain : '-' ∉ name) (rest : List Char) :
    splitArrows (name ++ '-' :: '>' :: rest) = name :: splitArrows rest := by
  induction name with
  | nil => rfl
  | cons c name ih =>
    simp only [List.mem_cons, not_or] at plain
    rw [List.cons_append, splitArrows, ih plain.2]
    · intro _ dash
      exact absurd dash.symm plain.1

/-- The path that names lead along from another. -/
def pathAlong (path : String) (names : List String) : String := names.foldl childPath path

/-- The characters of a path: each name has an arrow in front. -/
theorem toList_pathAlong (path : String) (names : List String) :
    (pathAlong path names).toList
      = path.toList ++ names.flatMap fun name => '-' :: '>' :: name.toList := by
  induction names generalizing path with
  | nil => simp [pathAlong]
  | cons name names ih =>
    rw [pathAlong, List.foldl_cons, ← pathAlong, ih]
    simp [childPath]

/-- Names without dashes are found again along the path. -/
theorem pathNames_pathAlong {first : String} {names : List String}
    (plain : ∀ name ∈ first :: names, '-' ∉ name.toList) :
    pathNames (pathAlong first names) = first :: names := by
  unfold pathNames
  rw [toList_pathAlong]
  induction names generalizing first with
  | nil =>
    have here := plain first List.mem_cons_self
    simp [splitArrows_of_plain here]
  | cons name names ih =>
    have here := plain first List.mem_cons_self
    have rest := ih fun name mem => plain name (List.mem_cons_of_mem first mem)
    rw [List.flatMap_cons, List.cons_append, List.cons_append, splitArrows_append here,
      List.map_cons, rest, String.ofList_toList]

/-! ## Schemas whose paths are clear -/

namespace Schema

/-- At no level are two names the same, and none has a dash in it. -/
abbrev ClearNames (s : Schema) : Prop :=
  s.Everywhere fun s => (s.map (·.name)).Nodup ∧ ∀ spec ∈ s, '-' ∉ spec.name.toList

/-- If no two fields of a schema share a name, each is found by its own. -/
theorem ofName?_of_mem {s : Schema} (distinct : (s.map (·.name)).Nodup) {spec : FieldSpec}
    (mem : spec ∈ s) : s.ofName? spec.name = some spec := by
  unfold ofName?
  cases found : s.find? (·.name == spec.name) with
  | none =>
    rw [List.find?_eq_none] at found
    exact absurd (beq_self_eq_true spec.name) (found spec mem)
  | some other =>
    have same : other.name = spec.name := by simpa using List.find?_some found
    rw [List.inj_on_of_nodup_map distinct (List.mem_of_find?_eq_some found) mem same]

/-- What a name leads to is a field of the schema with that name. -/
theorem mem_of_ofName? {s : Schema} {name : String} {spec : FieldSpec}
    (found : s.ofName? name = some spec) : spec ∈ s ∧ spec.name = name := by
  unfold ofName? at found
  have same := List.find?_some found
  exact ⟨List.mem_of_find?_eq_some found, eq_of_beq same⟩

/-- A name leads to a field. -/
@[simp] theorem hasPath_singleton (s : Schema) (name : String) :
    s.hasPath [name] = (s.ofName? name).isSome := rfl

/-- A name that is followed by others leads to the schema that the others lead on from. -/
theorem hasPath_cons (s : Schema) (name : String) {names : List String} (more : names ≠ []) :
    s.hasPath (name :: names) = (s.ofName? name).any fun spec => hasPath spec.nested names := by
  cases names with
  | nil => exact absurd rfl more
  | cons next names =>
    rw [hasPath]
    · cases s.ofName? name <;> rfl
    · exact more

/-- The names that lead to a field of a schema with clear names have no dash in them. -/
theorem ClearNames.plain_of_hasPath {s : Schema} (clear : s.ClearNames) {names : List String}
    (leads : s.hasPath names = true) : ∀ name ∈ names, '-' ∉ name.toList := by
  induction names generalizing s with
  | nil => simp
  | cons first names ih =>
    have plain {spec : FieldSpec} (found : s.ofName? first = some spec) : '-' ∉ first.toList := by
      obtain ⟨mem, rfl⟩ := mem_of_ofName? found
      exact clear.level.2 spec mem
    intro name mem
    by_cases more : names = []
    · subst more
      obtain ⟨spec, found⟩ := Option.isSome_iff_exists.mp leads
      rw [List.mem_singleton.mp mem]
      exact plain found
    · rw [hasPath_cons s first more, Option.any_eq_true] at leads
      obtain ⟨spec, found, deeper⟩ := leads
      rcases List.mem_cons.mp mem with rfl | later
      · exact plain found
      · exact ih (clear.nested (mem_of_ofName? found).1) deeper name later

end Schema

/-! ## Where a fault was found -/

/-- **The path of a fault leads to a field**, from the path below which faults are named. -/
theorem exists_path_of_verifyRecord {s : Schema} (clear : s.ClearNames) {path : String} {r : Record}
    {fault : SchemaFault} (failed : verifyRecord s path r = .error fault) :
    ∃ names, s.hasPath names = true ∧ fault.field = pathAlong path names := by
  -- on the length of the written form, which a nested record falls short of
  induction length : r.encode.length using Nat.strongRecOn generalizing s path r with
  | _ n ih =>
    subst length
    rcases error_of_verifyRecord failed with ⟨spec, mem, field⟩ | ⟨spec, mem, f, inside, r', sub, deeper⟩
    · refine ⟨[spec.name], ?_, field⟩
      rw [Schema.hasPath_singleton, Schema.ofName?_of_mem clear.level.1 mem, Option.isSome_some]
    · obtain ⟨names, leads, field⟩ :=
        ih _ (length_subrecord_lt inside sub) (clear.nested mem) deeper rfl
      have more : names ≠ [] := by
        rintro rfl
        cases leads
      refine ⟨spec.name :: names, ?_, field⟩
      rw [Schema.hasPath_cons s spec.name more, Schema.ofName?_of_mem clear.level.1 mem]
      exact leads

/-! ## The schema of the document -/

namespace MetadataSchema

/-- No level of the document's schema uses a tag twice. -/
theorem distinctTags_root : root.DistinctTags := Schema.everywhere_of_check (by decide +kernel)

/-- Its names are clear. -/
theorem clearNames_root : root.ClearNames := Schema.everywhere_of_check (by decide +kernel)

end MetadataSchema

open MetadataSchema

/-- A reader knows the paths that lead to a field. -/
theorem isKnownField_pathAlong {names : List String} (leads : root.hasPath names = true) :
    isKnownField (pathAlong rootName names) = true := by
  have plain : ∀ name ∈ rootName :: names, '-' ∉ name.toList := by
    intro name mem
    rcases List.mem_cons.mp mem with rfl | later
    · decide
    · exact clearNames_root.plain_of_hasPath leads name later
  unfold isKnownField
  rw [pathNames_pathAlong plain]
  simp [leads]

/-- **What the check accepts and what it names.** A record is accepted exactly if it satisfies the
schema, if no level of the schema uses a tag twice, wherever faults are named; the schema of the
document is of this form. A fault of a document's record is worded as the path of a field, which every
reader knows, and the problem with it. -/
theorem verification :
    (∀ s : Schema, s.DistinctTags → ∀ (path : String) (r : Record),
      verifyRecord s path r = .ok () ↔ Satisfies s r) ∧
    root.DistinctTags ∧
    ∀ (r : Record) (fault : SchemaFault), verifyRecord root rootName r = .error fault →
      fault.message = fault.field ++ fault.problem ∧ isKnownField fault.field = true := by
  refine ⟨fun s distinct path r => ?_, distinctTags_root, fun r fault failed => ?_⟩
  · exact verifyRecord_eq_ok_iff_satisfies distinct path r
  · obtain ⟨names, leads, field⟩ := exists_path_of_verifyRecord clearNames_root failed
    refine ⟨fault.message_eq, ?_⟩
    rw [field]
    exact isKnownField_pathAlong leads

end ComputePlanner
