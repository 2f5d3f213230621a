import ComputePlanner.Proofs.Metadata.Consistency

/-! # Operations on a document in place
`Draft.apply` answers with a new draft or a fault, so that it has no way of spoiling the old one. A
writer has: it changes its document field by field, and an operation that gives up half way leaves what
it has written so far. **`Edit.perform`** is each operation as such a writer carries it out, one
assignment after the other; what is left behind when it fails is the draft at that point. The two agree
(**`Edit.run_perform`**), so every operation makes all its checks before it writes anything.

Builds differ in what they make of a write that ends at no address (**`Edit.performIn`**). As in a draft,
an operation without further mention is that of a checked build.

Main statement: **`Draft.kept_of_run`**. -/

namespace ComputePlanner

/-- A program that changes a draft in place. One that fails leaves what it has changed. -/
abbrev Writing := EStateM FormatError Draft

namespace Writing

/-- Assigns to fields of the document. -/
def assign (f : Metadata → Metadata) : Writing Unit := modify fun d => d.edit f

/-- Requires a field, once. -/
def require (name : String) : Writing Unit := do
  let md := (← get).document
  if md.requires name then pure ()
  else assign fun md => { md with requiredFields := md.requiredFields ++ [name] }

/-- Copies data into the init image. -/
def copy (build : Build) (offset : UInt64) (data : Bytes) : Writing Unit := do
  let image := (← get).document.initImage
  match build.sum? (offset.toNat + data.length) with
  | none => throw (.wrappedWrite data.length offset.toNat)
  | some stop =>
    if image.length < stop.toNat then
      throw (.entry (.initWrite data.length offset.toNat image.length))
    else if stop.toNat = offset.toNat + data.length then
      assign fun md => { md with initImage := overwrite md.initImage offset.toNat data }
    else throw (.wrappedWrite data.length offset.toNat)

end Writing

open Writing in
/-- An operation as the writer of a build carries it out. -/
def Edit.performIn (build : Build) : Edit → Writing Unit
  | .cores count => do
    assign fun md => { md with cores := count }
    assign fun md => { md with coreTables := List.replicate count.toNat [] }
  | .vtcmSize size => assign fun md => { md with vtcmSize := size }
  | .l2tcmSize size => assign fun md => { md with l2tcmSize := size }
  | .name chosen => assign fun md => { md with name := chosen }
  | .semaphores count => do
    assign fun md => { md with semaphoreCount := count }
    assign fun md => { md with semaphoreInit := List.replicate count.toNat 0 }
  | .initSemaphore semaphore value => do
    let md := (← get).document
    if semaphore.toNat < md.semaphoreInit.length then
      assign fun md => { md with semaphoreInit := md.semaphoreInit.set semaphore.toNat value }
    else throw (.entry (.semaphore semaphore md.semaphoreCount))
  | .resizeInit length => assign fun md => { md with initImage := resizeImage md.initImage length }
  | .writeInit offset data => copy build offset data
  | .writeInitByte offset value => copy build offset [value]
  | .writeInitWord offset value => copy build offset (word32 value)
  | .staticDdr memory => do
    assign fun md => { md with staticDdr.size := memory.size }
    assign fun md => { md with staticDdr.ecc := memory.ecc }
  | .dynamicDdr memory => do
    assign fun md => { md with dynamicDdr.size := memory.size }
    assign fun md => { md with dynamicDdr.ecc := memory.ecc }
  | .staticConstants memory => do
    assign fun md => { md with staticConstants.size := memory.size }
    assign fun md => { md with staticConstants.ecc := memory.ecc }
  | .dynamicConstants memory => do
    assign fun md => { md with dynamicConstants.size := memory.size }
    assign fun md => { md with dynamicConstants.ecc := memory.ecc }
  | .singleVtcmPage single => assign fun md => { md with singleVtcmPage := single }
  | .heapSize size => assign fun md => { md with heapSize := size }
  | .heapBehavior behavior => do
    assign fun md => { md with heapBehavior := behavior }
    require Requirement.heapBehavior
  | .constantsCaching caching => do
    assign fun md => { md with constantsCaching := caching }
    require Requirement.constantsCaching
  | .floatUse vector matrix => do
    assign fun md => { md with vectorFloat := vector }
    assign fun md => { md with matrixFloat := matrix }
  | .exitDoorbell offset => assign fun md => { md with exitDoorbell := offset }
  | .port p => assign fun md => { md with ports := md.ports ++ [p] }
  | .transfer t => do
    let md := (← get).document
    match t.semaphores.find? fun op => md.semaphoreCount ≤ op.semaphore with
    | some op => throw (.entry (.transferSemaphore t.number op.semaphore md.semaphoreCount))
    | none => do
      if Draft.usesDynamicDdr t then require Requirement.dynamicDdr
      assign fun md => { md with transfers := md.transfers ++ [t] }
  | .coreEntry core entry => do
    let md := (← get).document
    if core.toNat < md.coreTables.length then
      assign fun md => { md with coreTables := md.coreTables.modify core.toNat (· ++ [entry]) }
    else throw (.entry (.core core md.cores))
  | .hostEntry entry => assign fun md => { md with hostTable := md.hostTable ++ [entry] }
  | .thread t =>
    if t.entry = 0 then throw (.entry .threadEntry)
    else assign fun md => { md with threads := md.threads ++ [t] }
  | .constantMapping m => do
    let md := (← get).document
    match md.constantMappings.find? fun other => other.cores &&& m.cores != 0 with
    | some other => throw (.entry (.mappingOverlap m.cores other.cores))
    | none => assign fun md => { md with constantMappings := md.constantMappings ++ [m] }
  | .context contract => do
    assign fun md => { md with context := contract }
    modify fun d => { d with contextChosen := true }
    require Requirement.contextContract
  | .requirement required =>
    if isKnownField required then require required else throw (.unknownField required)

/-- An operation as the writer of a checked build carries it out. -/
def Edit.perform (e : Edit) : Writing Unit := e.performIn .checked

/-! ## The two ways agree -/

/-- What a writer is left with when an operation answers a new draft or a fault. -/
def Draft.outcome (d : Draft) : Except FormatError Draft → EStateM.Result FormatError Draft Unit
  | .ok d' => .ok () d'
  | .error fault => .error fault d

@[simp] theorem Draft.outcome_ok (d d' : Draft) : d.outcome (.ok d') = .ok () d' := rfl

@[simp] theorem Draft.outcome_error (d : Draft) (fault : FormatError) :
    d.outcome (.error fault) = .error fault d := rfl

namespace Writing

/-- An assignment changes the document. -/
@[simp] theorem run_assign (f : Metadata → Metadata) (d : Draft) :
    (assign f).run d = .ok () (d.edit f) := rfl

/-- To require a field in place is to require it. -/
@[simp] theorem run_require (name : String) (d : Draft) :
    (require name).run d = .ok () (d.require name) := by
  by_cases there : d.document.requires name = true
  · have done : d.require name = d := if_pos there
    rw [done]
    simp [require, there]
  · have done : d.require name = d.edit _ := if_neg there
    rw [done]
    simp [require, there]

/-- To copy data in place is to write it. -/
theorem run_copy (build : Build) (offset : UInt64) (data : Bytes) (d : Draft) :
    (copy build offset data).run d = d.outcome (d.writeInitIn build offset data) := by
  rw [Draft.writeInitIn, writeImage]
  cases sum : build.sum? (offset.toNat + data.length) with
  | none => simp [copy, sum]
  | some stop =>
    by_cases long : d.document.initImage.length < stop.toNat
    · simp [copy, sum, long]
    · by_cases whole : stop.toNat = offset.toNat + data.length
      · rw [whole] at long
        simp [copy, sum, long, whole, Draft.edit]
      · simp [copy, sum, long, whole]

end Writing

/-- **An operation in place leaves the new draft, or the old one and a fault.** -/
theorem Edit.run_perform (e : Edit) (d : Draft) : e.perform.run d = d.outcome (d.apply e) := by
  cases e with
  | initSemaphore semaphore value =>
    rw [Draft.apply, Draft.initSemaphore]
    by_cases declared : semaphore.toNat < d.document.semaphoreInit.length
    · simp [perform, performIn, declared]
    · simp [perform, performIn, declared]
  | writeInit offset data => exact Writing.run_copy .checked offset data d
  | writeInitByte offset value => exact Writing.run_copy .checked offset [value] d
  | writeInitWord offset value => exact Writing.run_copy .checked offset (word32 value) d
  | heapBehavior behavior => exact Writing.run_require _ (d.edit _)
  | constantsCaching caching => exact Writing.run_require _ (d.edit _)
  | context contract => exact Writing.run_require _ { d.edit _ with contextChosen := true }
  | transfer t =>
    rw [Draft.apply, Draft.addTransfer]
    cases found : t.semaphores.find? fun op => d.document.semaphoreCount ≤ op.semaphore with
    | some op =>
      simp [perform, performIn, found]
    | none =>
      by_cases dynamic : Draft.usesDynamicDdr t = true
      · simp [perform, performIn, found, dynamic]
      · simp [perform, performIn, found, dynamic]
  | coreEntry core entry =>
    rw [Draft.apply, Draft.addCoreEntry]
    by_cases inside : core.toNat < d.document.coreTables.length
    · simp [perform, performIn, inside]
    · simp [perform, performIn, inside]
  | thread t =>
    rw [Draft.apply, Draft.addThread]
    by_cases zero : t.entry = 0
    · simp [perform, performIn, zero]
    · simp [perform, performIn, zero]
  | constantMapping m =>
    rw [Draft.apply, Draft.addConstantMapping]
    cases found : d.document.constantMappings.find? fun other => other.cores &&& m.cores != 0 with
    | some other =>
      simp [perform, performIn, found]
    | none =>
      simp [perform, performIn, found]
  | requirement required =>
    rw [Draft.apply, Draft.addRequirement]
    by_cases known : isKnownField required = true
    · simp [perform, performIn, known]
    · simp [perform, performIn, known]
  | _ => rfl

/-- An operation in place succeeds with the new draft. -/
theorem Edit.perform_eq_ok_iff {e : Edit} {d d' : Draft} :
    e.perform.run d = .ok () d' ↔ d.apply e = .ok d' := by
  rw [e.run_perform]
  cases d.apply e <;> simp

/-- An operation in place fails with the old draft. -/
theorem Edit.perform_eq_error_iff {e : Edit} {d d' : Draft} {fault : FormatError} :
    e.perform.run d = .error fault d' ↔ d.apply e = .error fault ∧ d' = d := by
  rw [e.run_perform]
  cases d.apply e <;> simp [eq_comm]

/-! ## Runs in place -/

namespace Draft

/-- The draft that an operation in place leaves, whether it fails or not. -/
def after (d : Draft) (e : Edit) : Draft :=
  match e.perform.run d with
  | .ok _ d' => d'
  | .error _ d' => d'

/-- A writer is left with the draft after the edit. -/
theorem after_eq_step (d : Draft) (e : Edit) : d.after e = d.step e := by
  rw [after, e.run_perform, step]
  cases d.apply e <;> rfl

/-- A run in place comes to the draft after the run of edits. -/
theorem foldl_after (d : Draft) (edits : List Edit) : edits.foldl after d = d.run edits := by
  have same : after = step := funext fun d => funext d.after_eq_step
  rw [same, run]

/-- What holds of a draft on the way, whatever the next operation is. -/
structure Kept (d : Draft) : Prop where
  consistent : d.document.Consistent
  /-- An operation that fails changes nothing. -/
  failed : ∀ (e : Edit) fault d', e.perform.run d = .error fault d' → d' = d
  /-- One that does not keeps the document consistent. -/
  performed : ∀ (e : Edit) d', e.perform.run d = .ok () d' → d'.document.Consistent
  /-- The finished document is consistent, too. -/
  finished : ∀ doc, d.finish = .ok doc → doc.metadata.Consistent

/-- **A new draft is kept in order by every run of operations in place**, whatever fails on the way. -/
theorem kept_of_run (major minor : UInt16) (edits : List Edit) :
    (edits.foldl after (start major minor)).Kept := by
  have sound : ((start major minor).run edits).Sound := (sound_start major minor).run edits
  have consistent : ((start major minor).run edits).document.Consistent :=
    (sound_start major minor).consistent_run (consistent_start major minor) edits
  rw [foldl_after]
  refine ⟨consistent, fun e fault d' failed => ?_, fun e d' performed => ?_,
    fun doc finished => ?_⟩
  · exact (Edit.perform_eq_error_iff.mp failed).2
  · exact .of_apply sound consistent (Edit.perform_eq_ok_iff.mp performed)
  · obtain ⟨-, rfl⟩ := finish_eq_ok_iff.mp finished
    exact sound.consistent_completed consistent

end Draft

end ComputePlanner
