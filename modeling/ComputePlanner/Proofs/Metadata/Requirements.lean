import ComputePlanner.Proofs.Metadata.Edits
import Mathlib.Data.List.Nodup

/-! # What edits do and what runs of them require
When an edit is carried out is said by **`Edit.Allowed`**, and what it changes then by **`Edit.change`**,
one case for each operation (**`Draft.apply_eq_ok_iff`**). Whatever an edit keeps is read off there.

A document lists the fields that its readers have to know, and a reader that does not know one of them
refuses the document. So that what was written is read again, every operation that adds to the list has
to add a name that readers know. **`Draft.Stepped`** says what one edit does to the list and to what
else finishing relies on, **`Draft.Sound`** is the invariant that follows from it, and
**`Draft.Sound.run`** carries the invariant along a run, whatever was refused on the way. -/

namespace ComputePlanner

/-! ## The list of required fields -/

/-- Names with one more behind them, unless it is among them. -/
def requiring (names : List String) (name : String) : List String :=
  if names.contains name then names else names ++ [name]

/-- A name that is there is not added. -/
theorem requiring_of_mem {names : List String} {name : String} (there : name ∈ names) :
    requiring names name = names := by
  rw [requiring, if_pos (List.contains_iff_mem.mpr there)]

/-- A name that is not there is put behind the others. -/
theorem requiring_of_not_mem {names : List String} {name : String} (new : name ∉ names) :
    requiring names name = names ++ [name] := by
  rw [requiring, if_neg fun there => new (List.contains_iff_mem.mp there)]

@[simp] theorem mem_requiring {names : List String} {name other : String} :
    other ∈ requiring names name ↔ other ∈ names ∨ other = name := by
  by_cases there : name ∈ names
  · rw [requiring_of_mem there]
    constructor
    · exact .inl
    · rintro (mem | rfl)
      · exact mem
      · exact there
  · rw [requiring_of_not_mem there, List.mem_append, List.mem_singleton]

/-- A list that a name is required in goes on as it began. -/
theorem prefix_requiring (names : List String) (name : String) :
    names <+: requiring names name := by
  rw [requiring]
  split
  · exact List.prefix_refl names
  · exact List.prefix_append names [name]

/-- A list that names are required in goes on as it began. -/
theorem prefix_foldl_requiring (added names : List String) :
    names <+: added.foldl requiring names := by
  induction added generalizing names with
  | nil => exact List.prefix_refl names
  | cons name added ih => exact (prefix_requiring names name).trans (ih _)

/-- No name is required twice. -/
theorem nodup_requiring {names : List String} (different : names.Nodup) (name : String) :
    (requiring names name).Nodup := by
  by_cases there : name ∈ names
  · rw [requiring_of_mem there]
    exact different
  · rw [requiring_of_not_mem there, ← List.concat_eq_append]
    exact List.Nodup.concat there different

/-- No name is required twice, however many are. -/
theorem nodup_foldl_requiring {names : List String} (different : names.Nodup)
    (added : List String) : (added.foldl requiring names).Nodup := by
  induction added generalizing names with
  | nil => exact different
  | cons name added ih => exact ih (nodup_requiring different name)

/-- Different names are added in their order, except for those that are there. -/
theorem foldl_requiring {added : List String} (different : added.Nodup) (names : List String) :
    added.foldl requiring names = names ++ added.filter (· ∉ names) := by
  -- along the names that are added; each may be there already
  induction added generalizing names with
  | nil => simp
  | cons name added ih =>
    obtain ⟨apart, different⟩ := List.nodup_cons.mp different
    rw [List.foldl_cons, ih different]
    by_cases there : name ∈ names
    · rw [requiring_of_mem there, List.filter_cons_of_neg (by simpa using there)]
    · -- the one that was added is none of those behind it
      have same : added.filter (· ∉ names ++ [name]) = added.filter (· ∉ names) := by
        apply List.filter_congr
        intro other mem
        have distinct : other ≠ name := fun eq => apart (eq ▸ mem)
        simp [distinct]
      rw [requiring_of_not_mem there, same, List.filter_cons_of_pos (by simpa using there),
        List.append_assoc, List.singleton_append]

namespace Draft

/-- To require a field is to add it to the list, and nothing else. -/
theorem require_eq (d : Draft) (name : String) :
    d.require name
      = d.edit fun md => { md with requiredFields := requiring md.requiredFields name } := by
  by_cases there : name ∈ d.document.requiredFields
  · have requires : d.document.requires name = true := List.contains_iff_mem.mpr there
    rw [require, if_pos requires, edit, requiring_of_mem there]
  · have requires : ¬d.document.requires name = true :=
      fun is => there (List.contains_iff_mem.mp is)
    rw [require, if_neg requires, edit, edit, requiring_of_not_mem there]

end Draft

/-! ## One edit -/

namespace Edit

/-- Whether an edit chooses the context block. -/
def choosesContext : Edit → Bool
  | .context _ => true
  | _ => false

/-- The field that readers have to know after an edit. -/
def requirement? : Edit → Option String
  | .heapBehavior _ => some Requirement.heapBehavior
  | .constantsCaching _ => some Requirement.constantsCaching
  | .context _ => some Requirement.contextContract
  | .transfer t => if Draft.usesDynamicDdr t then some Requirement.dynamicDdr else none
  | .requirement required => some required
  | _ => none

/-- What has to hold of a document for an edit to be carried out. -/
def Allowed (md : Metadata) : Edit → Prop
  | .initSemaphore semaphore _ => semaphore.toNat < md.semaphoreInit.length
  | .writeInit offset data => ImageWrite.Fits ⟨offset, data⟩ md.initImage
  | .writeInitByte offset value => ImageWrite.Fits ⟨offset, [value]⟩ md.initImage
  | .writeInitWord offset value => ImageWrite.Fits ⟨offset, word32 value⟩ md.initImage
  | .transfer t => ∀ op ∈ t.semaphores, op.semaphore < md.semaphoreCount
  | .coreEntry core _ => core.toNat < md.coreTables.length
  | .thread t => t.entry ≠ 0
  | .constantMapping m => ∀ other ∈ md.constantMappings, other.cores &&& m.cores = 0
  | .requirement required => isKnownField required = true
  | _ => True

/-- What an edit changes in a document, apart from the list of required fields. -/
def change : Edit → Metadata → Metadata
  | .cores count, md => { md with cores := count, coreTables := List.replicate count.toNat [] }
  | .vtcmSize size, md => { md with vtcmSize := size }
  | .l2tcmSize size, md => { md with l2tcmSize := size }
  | .name chosen, md => { md with name := chosen }
  | .semaphores count, md =>
    { md with semaphoreCount := count, semaphoreInit := List.replicate count.toNat 0 }
  | .initSemaphore semaphore value, md =>
    { md with semaphoreInit := md.semaphoreInit.set semaphore.toNat value }
  | .resizeInit length, md => { md with initImage := resizeImage md.initImage length }
  | .writeInit offset data, md =>
    { md with initImage := overwrite md.initImage offset.toNat data }
  | .writeInitByte offset value, md =>
    { md with initImage := overwrite md.initImage offset.toNat [value] }
  | .writeInitWord offset value, md =>
    { md with initImage := overwrite md.initImage offset.toNat (word32 value) }
  | .staticDdr memory, md => { md with staticDdr := memory }
  | .dynamicDdr memory, md => { md with dynamicDdr := memory }
  | .staticConstants memory, md => { md with staticConstants := memory }
  | .dynamicConstants memory, md => { md with dynamicConstants := memory }
  | .singleVtcmPage single, md => { md with singleVtcmPage := single }
  | .heapSize size, md => { md with heapSize := size }
  | .heapBehavior behavior, md => { md with heapBehavior := behavior }
  | .constantsCaching caching, md => { md with constantsCaching := caching }
  | .floatUse vector matrix, md => { md with vectorFloat := vector, matrixFloat := matrix }
  | .exitDoorbell offset, md => { md with exitDoorbell := offset }
  | .port p, md => { md with ports := md.ports ++ [p] }
  | .transfer t, md => { md with transfers := md.transfers ++ [t] }
  | .coreEntry core entry, md =>
    { md with coreTables := md.coreTables.modify core.toNat (· ++ [entry]) }
  | .hostEntry entry, md => { md with hostTable := md.hostTable ++ [entry] }
  | .thread t, md => { md with threads := md.threads ++ [t] }
  | .constantMapping m, md => { md with constantMappings := md.constantMappings ++ [m] }
  | .context contract, md => { md with context := contract }
  | .requirement _, md => md

/-- The draft that an edit leaves when it is carried out. -/
def result (e : Edit) (d : Draft) : Draft where
  document :=
    { e.change d.document with
      requiredFields := e.requirement?.toList.foldl requiring d.document.requiredFields }
  contextChosen := e.choosesContext || d.contextChosen

/-- What an edit requires that is carried out, readers know. -/
theorem Allowed.isKnownField {md : Metadata} {e : Edit} (allowed : e.Allowed md) :
    ∀ name ∈ e.requirement?, isKnownField name = true := by
  intro name required
  cases e with
  | heapBehavior | constantsCaching | context =>
    cases required
    decide +kernel
  | transfer t =>
    obtain ⟨-, known⟩ := Option.ite_none_right_eq_some.mp required
    cases known
    decide +kernel
  | requirement other =>
    cases required
    exact allowed
  | _ => cases required

end Edit

namespace Draft

variable {d d' : Draft} {e : Edit}

/-- A transfer is added exactly if its semaphores are declared. -/
theorem addTransfer_eq_ok_iff {t : Transfer} :
    d.addTransfer t = .ok d' ↔
      (∀ op ∈ t.semaphores, op.semaphore < d.document.semaphoreCount) ∧
      d' = (if usesDynamicDdr t then d.require Requirement.dynamicDdr else d).edit fun md =>
        { md with transfers := md.transfers ++ [t] } := by
  have checked := eq_ok_iff_of_find? (x := d.addTransfer t) (b := d')
    (fun op found => ⟨_, by rw [addTransfer, found]⟩) (fun none => by rw [addTransfer, none])
  simpa only [decide_eq_false_iff_not, UInt16.not_le] using checked

/-- A mapping is added exactly if it shares no core with the others. -/
theorem addConstantMapping_eq_ok_iff {m : ConstantMapping} :
    d.addConstantMapping m = .ok d' ↔
      (∀ other ∈ d.document.constantMappings, other.cores &&& m.cores = 0) ∧
      d' = d.edit fun md => { md with constantMappings := md.constantMappings ++ [m] } := by
  have checked := eq_ok_iff_of_find? (x := d.addConstantMapping m) (b := d')
    (fun other found => ⟨_, by rw [addConstantMapping, found]⟩)
    (fun none => by rw [addConstantMapping, none])
  simpa only [bne_eq_false_iff_eq] using checked

/-- **When each edit is carried out, and what it leaves then.** -/
theorem apply_eq_ok_iff : d.apply e = .ok d' ↔ e.Allowed d.document ∧ d' = e.result d := by
  cases e with
  | initSemaphore semaphore value =>
    rw [apply, initSemaphore, ite_eq_ok_iff, ok_eq_ok_iff]
    rfl
  | writeInit offset data => exact writeInit_eq_ok_iff
  | writeInitByte offset value => exact writeInit_eq_ok_iff
  | writeInitWord offset value => exact writeInit_eq_ok_iff
  | heapBehavior | constantsCaching | context =>
    rw [apply, ok_eq_ok_iff]
    refine Iff.trans ?_ (and_iff_right trivial).symm
    simp only [setHeapBehavior, setConstantsCaching, setContext, require_eq]
    rfl
  | transfer t =>
    -- what it requires, it requires in front of its entry
    have left : (if usesDynamicDdr t then d.require Requirement.dynamicDdr else d).edit (fun md =>
        { md with transfers := md.transfers ++ [t] }) = (Edit.transfer t).result d := by
      rw [Edit.result, Edit.requirement?]
      split
      · rw [require_eq]
        rfl
      · rfl
    rw [apply, addTransfer_eq_ok_iff, left]
    rfl
  | coreEntry core entry =>
    rw [apply, addCoreEntry, ite_eq_ok_iff, ok_eq_ok_iff]
    rfl
  | thread t =>
    rw [apply, addThread, ite_error_eq_ok_iff, ok_eq_ok_iff]
    rfl
  | constantMapping m => exact addConstantMapping_eq_ok_iff
  | requirement name =>
    rw [apply, addRequirement, ite_eq_ok_iff, ok_eq_ok_iff, require_eq]
    rfl
  | _ => exact ok_eq_ok_iff.trans (and_iff_right trivial).symm

/-- What an edit that is carried out does to what finishing relies on. -/
structure Stepped (d : Draft) (e : Edit) (d' : Draft) : Prop where
  major : d'.document.major = d.document.major
  rawLength : d'.document.rawLength = d.document.rawLength
  contextChosen : d'.contextChosen = (d.contextChosen || e.choosesContext)
  requiredFields : d'.document.requiredFields
    = e.requirement?.toList.foldl requiring d.document.requiredFields
  /-- What is required is known. -/
  known : ∀ name ∈ e.requirement?, isKnownField name = true

/-- What each edit does, if it is carried out. -/
theorem stepped_of_apply (h : d.apply e = .ok d') : Stepped d e d' := by
  obtain ⟨allowed, rfl⟩ := apply_eq_ok_iff.mp h
  refine ⟨?_, ?_, Bool.or_comm .., rfl, allowed.isKnownField⟩
  · cases e <;> rfl
  · cases e <;> rfl

/-! ## Runs -/

/-- What every edit keeps that is carried out, every run keeps, since an edit that is refused changes
nothing. -/
theorem run_induction {motive : Draft → Prop}
    (keeps : ∀ {d e d'}, motive d → d.apply e = .ok d' → motive d') (holds : motive d)
    (edits : List Edit) : motive (d.run edits) := by
  induction edits generalizing d with
  | nil => exact holds
  | cons e edits ih =>
    refine ih (d := d.step e) ?_
    rw [step]
    split
    · next d' applied => exact keeps holds applied
    · exact holds

/-- What holds of every draft on the way to a document: its version is this format's, its required
fields are known, a context block that was chosen is among them, and the length of its record is not
set yet. -/
structure Sound (d : Draft) : Prop where
  major : d.document.major = metadataMajor
  rawLength : d.document.rawLength = 0
  known : ∀ name ∈ d.document.requiredFields, isKnownField name = true
  context : d.contextChosen = true → Requirement.contextContract ∈ d.document.requiredFields

/-- A new draft is sound. -/
theorem sound_start (major minor : UInt16) : (start major minor).Sound where
  major := rfl
  rawLength := rfl
  known := nofun
  context := nofun

/-- Every edit that is carried out keeps a draft sound. -/
theorem Sound.of_apply (sound : d.Sound) (h : d.apply e = .ok d') : d'.Sound := by
  have stepped := stepped_of_apply h
  refine
    { major := stepped.major.trans sound.major
      rawLength := stepped.rawLength.trans sound.rawLength
      known := ?_
      context := ?_ }
  · rw [stepped.requiredFields]
    intro name mem
    cases requirement : e.requirement? with
    | none =>
      rw [requirement] at mem
      exact sound.known name mem
    | some new =>
      rw [requirement, Option.toList_some, List.foldl_cons, List.foldl_nil, mem_requiring] at mem
      rcases mem with mem | rfl
      · exact sound.known name mem
      · exact stepped.known name requirement
  · rw [stepped.contextChosen, stepped.requiredFields]
    intro chosen
    rcases Bool.or_eq_true_iff.mp chosen with before | now
    · cases e.requirement? with
      | none => exact sound.context before
      | some new => exact mem_requiring.mpr (.inl (sound.context before))
    · cases e with
      | context contract => exact mem_requiring.mpr (.inr rfl)
      | _ => cases now

/-- **Every run of edits keeps a draft sound.** -/
theorem Sound.run (sound : d.Sound) (edits : List Edit) : (d.run edits).Sound :=
  run_induction (fun sound applied => sound.of_apply applied) sound edits

/-- A context block has been chosen by the edits that choose one, which are never refused. -/
theorem contextChosen_step (d : Draft) (e : Edit) :
    (d.step e).contextChosen = (d.contextChosen || e.choosesContext) := by
  rw [step]
  split
  · next d' applied => exact (stepped_of_apply applied).contextChosen
  · next fault refused =>
    cases e with
    | context contract => cases refused
    | _ => exact (Bool.or_false _).symm

/-- After a run, a context block has been chosen exactly if some edit chooses one. -/
theorem contextChosen_run (d : Draft) (edits : List Edit) :
    (d.run edits).contextChosen = (d.contextChosen || edits.any (·.choosesContext)) := by
  induction edits generalizing d with
  | nil => exact (Bool.or_false _).symm
  | cons e edits ih =>
    show ((d.step e).run edits).contextChosen = _
    rw [ih, contextChosen_step, List.any_cons, Bool.or_assoc]

end Draft

end ComputePlanner
