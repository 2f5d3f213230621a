import ComputePlanner.Proofs.Metadata.Paths

/-! # The names that readers know
A document lists names that its reader has to know. A reader takes a name apart at its arrows and looks
the parts up, each among the fields that the one before it leads to. **`Schema.Leads`** says which names
lead to a field without taking anything apart: it follows the tree of fields down. That the two agree
needs both directions of the cut: a name that is put together from the fields' names is cut between them,
since none of them has a dash in it, and a name that is cut is put together from its parts again.

Main statement: **`isKnownField_iff`**. -/

namespace ComputePlanner

/-! ## Putting a path together again -/

/-- What is cut at the arrows is put together again with arrows between the parts; there is always a
first part. -/
theorem exists_splitArrows (path : List Char) :
    ∃ first parts, splitArrows path = first :: parts ∧
      path = first ++ parts.flatMap fun part => '-' :: '>' :: part := by
  fun_induction splitArrows path with
  | case1 => exact ⟨[], [], rfl, rfl⟩
  | case2 rest ih =>
    -- an arrow: the first part is empty, and what was cut behind it comes second
    obtain ⟨first, parts, cut, joined⟩ := ih
    refine ⟨[], first :: parts, by rw [cut], ?_⟩
    rw [List.nil_append, List.flatMap_cons, List.cons_append, List.cons_append, ← joined]
  | case3 c rest _ first parts cut ih =>
    obtain ⟨first', parts', cut', joined⟩ := ih
    obtain ⟨rfl, rfl⟩ := List.cons.inj (cut.symm.trans cut')
    exact ⟨c :: first, parts, rfl, by rw [List.cons_append, ← joined]⟩
  | case4 c rest _ none ih =>
    obtain ⟨first, parts, cut, -⟩ := ih
    rw [none] at cut
    cases cut

/-- The names along a path lead along it. -/
theorem eq_pathAlong_of_pathNames {path first : String} {names : List String}
    (along : pathNames path = first :: names) : path = pathAlong first names := by
  obtain ⟨part, parts, cut, joined⟩ := exists_splitArrows path.toList
  rw [pathNames, cut, List.map_cons, List.cons.injEq] at along
  obtain ⟨rfl, rfl⟩ := along
  apply String.toList_injective
  rw [toList_pathAlong, joined, List.flatMap_map, String.toList_ofList]
  simp only [String.toList_ofList]

/-! ## The tree of fields -/

/-- Names that lead from a level of a schema to a field: each is the name of a field on the level that
the one before it leads to. A field without nested records has no level below it. -/
inductive Schema.Leads : Schema → List String → Prop
  /-- To a field of the level itself. -/
  | here {s : Schema} {spec : FieldSpec} (mem : spec ∈ s) : Leads s [spec.name]
  /-- To a field further down. -/
  | inside {s : Schema} {spec : FieldSpec} {names : List String} (mem : spec ∈ s)
      (deeper : Leads spec.nested names) : Leads s (spec.name :: names)

namespace Schema

/-- At least one name is needed. -/
theorem Leads.ne_nil {s : Schema} {names : List String} (leads : s.Leads names) : names ≠ [] := by
  cases leads <;> exact List.cons_ne_nil _ _

/-- Looking names up level by level follows the tree. -/
theorem leads_of_hasPath {s : Schema} {names : List String} (found : s.hasPath names = true) :
    s.Leads names := by
  induction names generalizing s with
  | nil => cases found
  | cons first names ih =>
    by_cases more : names = []
    · subst more
      obtain ⟨spec, here⟩ := Option.isSome_iff_exists.mp found
      obtain ⟨mem, rfl⟩ := mem_of_ofName? here
      exact .here mem
    · rw [hasPath_cons s first more, Option.any_eq_true] at found
      obtain ⟨spec, here, deeper⟩ := found
      obtain ⟨mem, rfl⟩ := mem_of_ofName? here
      exact .inside mem (ih deeper)

/-- Names that follow the tree are looked up, if no two fields of a level share a name. -/
theorem Leads.hasPath {s : Schema} {names : List String} (leads : s.Leads names)
    (clear : s.ClearNames) : s.hasPath names = true := by
  induction leads with
  | here mem =>
    rw [hasPath_singleton, ofName?_of_mem clear.level.1 mem, Option.isSome_some]
  | inside mem deeper ih =>
    rw [hasPath_cons _ _ deeper.ne_nil, ofName?_of_mem clear.level.1 mem, Option.any_some]
    exact ih (clear.nested mem)

end Schema

open MetadataSchema

/-- **The names that a reader knows**: the one feature without a field of its own, and the root's name
followed by names that lead to a field, an arrow in front of each. -/
theorem isKnownField_iff (name : String) :
    isKnownField name = true ↔
      name = "Metadata->dynamicSharedDDRSupported" ∨
        ∃ names, root.Leads names ∧ name = pathAlong "Metadata" names := by
  constructor
  · intro known
    rw [isKnownField, Bool.or_eq_true] at known
    rcases known with feature | path
    · exact .inl (List.mem_singleton.mp (List.contains_iff_mem.mp feature))
    · cases along : pathNames name with
      | nil =>
        rw [along] at path
        cases path
      | cons first names =>
        rw [along, Bool.and_eq_true, beq_iff_eq] at path
        obtain ⟨rfl, found⟩ := path
        exact .inr ⟨names, Schema.leads_of_hasPath found, eq_pathAlong_of_pathNames along⟩
  · rintro (rfl | ⟨names, leads, rfl⟩)
    · decide +kernel
    · exact isKnownField_pathAlong (leads.hasPath clearNames_root)

/-- A path has to end in a name, and dashes do not run into an arrow. -/
example : isKnownField "Metadata->execContext->fields->" = false ∧
    isKnownField "Metadata-->execContext" = false ∧
    isKnownField "Metadata->execContext->fields->offset" = true := by
  decide +kernel

end ComputePlanner
