import ComputePlanner.Proofs.Metadata.Features

/-! # Semaphores that transfers use
A transfer is added only if its semaphores are declared, but the semaphores of a draft can be declared
anew at any time, and fewer of them. So the number that a transfer was checked against is the one that
stood when it was added (**`Draft.declaredBy`**), and a document can end up with transfers whose
semaphores it does not have, exactly by way of a later declaration.

Main statements:
* **`Draft.mem_transfers_run_iff`** — which transfers a run of edits leaves;
* **`Draft.declared_of_run`** — how the transfers of a finished document stand to its semaphores;
* **`Draft.undeclared_of_fewerRun`** — a document that uses a semaphore it does not have. -/

namespace ComputePlanner

/-- The number of semaphores that an edit declares. -/
def Edit.declared? : Edit → Option UInt16
  | .semaphores count => some count
  | _ => none

namespace Draft

variable {d d' : Draft} {e : Edit} {t : Transfer}

/-! ## One edit -/

/-- The number of semaphores changes only where they are declared. -/
theorem semaphoreCount_of_apply (h : d.apply e = .ok d') :
    d'.document.semaphoreCount = e.declared?.getD d.document.semaphoreCount := by
  obtain ⟨-, rfl⟩ := apply_eq_ok_iff.mp h
  cases e <;> rfl

/-- A declaration is never refused, so what is refused leaves the number alone. -/
theorem semaphoreCount_step (d : Draft) (e : Edit) :
    (d.step e).document.semaphoreCount = e.declared?.getD d.document.semaphoreCount := by
  rw [step]
  split
  · next d' applied => exact semaphoreCount_of_apply applied
  · next fault refused =>
    cases e with
    | semaphores count => cases refused
    | _ => rfl

/-- After an edit there are the transfers that were there, and the one that it adds. -/
theorem mem_transfers_step_iff :
    t ∈ (d.step e).document.transfers ↔
      t ∈ d.document.transfers ∨
        e = .transfer t ∧ ∀ op ∈ t.semaphores, op.semaphore < d.document.semaphoreCount := by
  rw [step]
  split
  · next d' applied =>
    cases e with
    | transfer new =>
      obtain ⟨inside, rfl⟩ := apply_eq_ok_iff.mp applied
      show t ∈ d.document.transfers ++ [new] ↔ _
      rw [List.mem_append, List.mem_singleton, Edit.transfer.injEq]
      refine or_congr_right ⟨?_, fun added => added.1.symm⟩
      rintro rfl
      exact ⟨rfl, inside⟩
    | _ =>
      rcases (wrote_of_apply applied).transfers with same | ⟨new, is, -⟩
      · rw [same]
        refine (or_iff_left fun added => ?_).symm
        cases added.1
      · cases is
  · next fault refused =>
    refine (or_iff_left ?_).symm
    rintro ⟨rfl, inside⟩
    have added : d.apply (.transfer t) = .ok ((Edit.transfer t).result d) :=
      apply_eq_ok_iff.mpr ⟨inside, rfl⟩
    rw [added] at refused
    cases refused

/-! ## Runs -/

/-- The number of semaphores after edits of a new draft: as many as were declared last. -/
def declaredBy (edits : List Edit) : UInt16 :=
  edits.foldl (fun count e => e.declared?.getD count) 0

/-- After a run there are as many semaphores as were declared last. -/
theorem semaphoreCount_run (d : Draft) (edits : List Edit) :
    (d.run edits).document.semaphoreCount
      = edits.foldl (fun count e => e.declared?.getD count) d.document.semaphoreCount := by
  induction edits generalizing d with
  | nil => rfl
  | cons e edits ih =>
    show ((d.step e).run edits).document.semaphoreCount = _
    rw [ih, semaphoreCount_step, List.foldl_cons]

/-- **After a run there are the transfers that were there, and those that were added while their
semaphores were declared.** -/
theorem mem_transfers_run_iff (d : Draft) (edits : List Edit) :
    t ∈ (d.run edits).document.transfers ↔
      t ∈ d.document.transfers ∨ ∃ before after, edits = before ++ .transfer t :: after ∧
        ∀ op ∈ t.semaphores, op.semaphore < (d.run before).document.semaphoreCount := by
  induction edits generalizing d with
  | nil => simp [run]
  | cons e edits ih =>
    have first : d.run (e :: edits) = (d.step e).run edits := rfl
    rw [first, ih, mem_transfers_step_iff, or_assoc]
    refine or_congr_right ⟨?_, ?_⟩
    · rintro (⟨rfl, inside⟩ | ⟨before, after, rfl, inside⟩)
      · exact ⟨[], edits, rfl, inside⟩
      · exact ⟨e :: before, after, rfl, inside⟩
    · rintro ⟨before, after, split, inside⟩
      cases before with
      | nil =>
        obtain ⟨rfl, rfl⟩ := List.cons.inj split
        exact .inl ⟨rfl, inside⟩
      | cons e' before =>
        obtain ⟨rfl, rfl⟩ := List.cons.inj split
        exact .inr ⟨before, after, rfl, inside⟩

/-- Behind a declaration the number of semaphores stays, or it is one that was declared there. -/
theorem declaredBy_append (before after : List Edit) :
    declaredBy (before ++ after) = declaredBy before ∨
      .semaphores (declaredBy (before ++ after)) ∈ after := by
  rw [declaredBy, List.foldl_append, ← declaredBy]
  generalize declaredBy before = count
  induction after generalizing count with
  | nil => exact .inl rfl
  | cons e after ih =>
    rw [List.foldl_cons]
    rcases ih (e.declared?.getD count) with same | later
    · rw [same]
      cases e with
      | semaphores declared => exact .inr List.mem_cons_self
      | _ => exact .inl rfl
    · exact .inr (List.mem_cons_of_mem e later)

/-! ## Finished documents -/

/-- How the transfers of a document stand to its semaphores, by the edits of a new draft that led to
it. -/
structure Declared (edits : List Edit) (md : Metadata) : Prop where
  /-- There are as many semaphores as were declared last. -/
  count : md.semaphoreCount = declaredBy edits
  /-- The transfers are those that were added while their semaphores were declared. -/
  transfers : ∀ t, t ∈ md.transfers ↔ ∃ before after, edits = before ++ .transfer t :: after ∧
    ∀ op ∈ t.semaphores, op.semaphore < declaredBy before
  /-- Behind a transfer with a semaphore that there is not, too few were declared. -/
  undeclared : ∀ t ∈ md.transfers, ∀ op ∈ t.semaphores, md.semaphoreCount ≤ op.semaphore →
    ∃ before after, edits = before ++ .transfer t :: after ∧ op.semaphore < declaredBy before ∧
      .semaphores md.semaphoreCount ∈ after
  /-- If no declaration behind a transfer is of fewer, there are all semaphores that are used. -/
  inRange : (∀ before t after count, edits = before ++ .transfer t :: after →
      .semaphores count ∈ after → declaredBy before ≤ count) →
    ∀ t ∈ md.transfers, ∀ op ∈ t.semaphores, op.semaphore < md.semaphoreCount

/-- **How the transfers of a finished document stand to its semaphores**, whatever was declared,
added or refused on the way. -/
theorem declared_of_run {major minor : UInt16} {edits : List Edit} {doc : Document}
    (finished : ((start major minor).run edits).finish = .ok doc) :
    Declared edits doc.metadata := by
  have counted (edits : List Edit) :
      ((start major minor).run edits).document.semaphoreCount = declaredBy edits :=
    semaphoreCount_run (start major minor) edits
  have transfers (t : Transfer) : t ∈ ((start major minor).run edits).document.transfers ↔
      ∃ before after, edits = before ++ .transfer t :: after ∧
        ∀ op ∈ t.semaphores, op.semaphore < declaredBy before := by
    rw [mem_transfers_run_iff]
    simp only [counted]
    exact or_iff_right List.not_mem_nil
  have undeclared : ∀ t ∈ ((start major minor).run edits).document.transfers,
      ∀ op ∈ t.semaphores, declaredBy edits ≤ op.semaphore →
      ∃ before after, edits = before ++ .transfer t :: after ∧ op.semaphore < declaredBy before ∧
        .semaphores (declaredBy edits) ∈ after := by
    intro t mem op used outside
    obtain ⟨before, after, rfl, inside⟩ := (transfers t).mp mem
    refine ⟨before, after, rfl, inside op used, ?_⟩
    -- the number is not the one of before, so it was declared behind the transfer
    rcases declaredBy_append before (.transfer t :: after) with same | later
    · rw [same] at outside
      exact absurd (inside op used) (UInt16.not_lt.mpr outside)
    · exact (List.mem_cons.mp later).resolve_left nofun
  obtain ⟨-, rfl⟩ := finish_eq_ok_iff.mp finished
  have count : ((start major minor).run edits).completed.semaphoreCount = declaredBy edits :=
    counted edits
  refine { count, transfers, undeclared := ?_, inRange := fun never t mem op used => ?_ }
  · rw [count]
    exact undeclared
  · rw [count]
    by_contra outside
    obtain ⟨before, after, split, inside, later⟩ :=
      undeclared t mem op used (UInt16.not_lt.mp outside)
    exact outside (UInt16.lt_of_lt_of_le inside (never before t after _ split later))

/-- A transfer that waits for a semaphore. -/
def waitingTransfer (semaphore : UInt16) : Transfer :=
  { number := 0, hostOffset := 0, space := .multicast, deviceOffset := 0, size := 256
    direction := .inward, port := 0, group := 0
    semaphores := [⟨.waitEq, semaphore, 1, .pre, false, false⟩], doorbells := []
    transaction := 0 }

/-- A run that adds a transfer before its semaphore is declared, and again behind that. -/
def moreRun : List Edit :=
  [.cores 1, .vtcmSize 4096, .l2tcmSize 4096, .semaphores 2, .transfer (waitingTransfer 3),
    .semaphores 4, .transfer (waitingTransfer 3), .semaphores 5]

/-- The transfer is in the document once, and its semaphore is declared. -/
theorem declared_of_run_more :
    ∃ doc, ((start 2 0).run moreRun).finish = .ok doc ∧ Declared moreRun doc.metadata ∧
      doc.metadata.transfers = [waitingTransfer 3] ∧ doc.metadata.semaphoreCount = 5 := by
  have complete : ((start 2 0).run moreRun).Complete :=
    ⟨by decide +kernel, by decide +kernel, by decide +kernel, by decide +kernel⟩
  obtain ⟨doc, finished⟩ := exists_finish_iff.mpr complete
  have declared := declared_of_run finished
  obtain ⟨-, rfl⟩ := finish_eq_ok_iff.mp finished
  exact ⟨_, finished, declared, by decide +kernel, by decide +kernel⟩

/-- A run that declares fewer semaphores behind a transfer that uses one of them. -/
def fewerRun : List Edit :=
  [.cores 1, .vtcmSize 4096, .l2tcmSize 4096, .semaphores 4, .transfer (waitingTransfer 3),
    .semaphores 2]

/-- **The document of the run uses a semaphore that it does not have.** It can be finished all the same,
and readers accept it. -/
theorem undeclared_of_fewerRun :
    ∃ doc, ((start 2 0).run fewerRun).finish = .ok doc ∧
      readMetadata doc.bytes = .ok doc.metadata ∧
      ∃ t ∈ doc.metadata.transfers, ∃ op ∈ t.semaphores,
        ¬op.semaphore < doc.metadata.semaphoreCount := by
  have complete : ((start 2 0).run fewerRun).Complete :=
    ⟨by decide +kernel, by decide +kernel, by decide +kernel, by decide +kernel⟩
  obtain ⟨doc, finished⟩ := exists_finish_iff.mpr complete
  obtain ⟨-, rfl⟩ := finish_eq_ok_iff.mp finished
  have sound : ((start 2 0).run fewerRun).Sound := (sound_start 2 0).run fewerRun
  have read := (sound.readMetadata_completed (by decide +kernel)).1
  exact ⟨_, finished, read, waitingTransfer 3, by decide +kernel, _, List.mem_singleton_self _,
    by decide +kernel⟩

end Draft

end ComputePlanner
