import ComputePlanner.Proofs.Metadata.Finishing

/-! # What edits keep together
Some fields of a document only make sense together: a table for each core, a first value for each
semaphore, mappings that share no core. No operation sets one of them alone, whatever the order in which
operations come and whichever are refused. **`Draft.Wrote`** says what one edit does to these fields,
**`Metadata.Consistent`** is the invariant that follows from it, and **`Draft.Sound.consistent_run`**
carries it along a run. -/

namespace ComputePlanner

/-- The fields of a document fit together. -/
structure Metadata.Consistent (md : Metadata) : Prop where
  /-- There is a multicast table for each core. -/
  coreTables : md.coreTables.length = md.cores.toNat
  /-- There is a first value for each semaphore. -/
  semaphores : md.semaphoreInit.length = md.semaphoreCount.toNat
  /-- No field is required twice. -/
  once : md.requiredFields.Nodup
  /-- Readers know every field that is required. -/
  known : ∀ name ∈ md.requiredFields, isKnownField name = true
  /-- The constants are mapped onto a core once. -/
  apart : md.constantMappings.Pairwise fun m m' => m.cores &&& m'.cores = 0
  /-- Every thread starts somewhere. -/
  started : ∀ t ∈ md.threads, t.entry ≠ 0

namespace Draft

variable {d d' : Draft} {e : Edit}

/-! ## One edit -/

/-- What an edit that is carried out does to the fields of a document that belong together, or that
its readers have to be told of. -/
structure Wrote (md : Metadata) (e : Edit) (md' : Metadata) : Prop where
  coreTables : (md'.cores = md.cores ∧ md'.coreTables.length = md.coreTables.length) ∨
    md'.coreTables.length = md'.cores.toNat := by exact .inl ⟨rfl, rfl⟩
  semaphores : (md'.semaphoreCount = md.semaphoreCount ∧
      md'.semaphoreInit.length = md.semaphoreInit.length) ∨
    md'.semaphoreInit.length = md'.semaphoreCount.toNat := by exact .inl ⟨rfl, rfl⟩
  constantMappings : md'.constantMappings = md.constantMappings ∨
    ∃ m, (∀ other ∈ md.constantMappings, other.cores &&& m.cores = 0) ∧
      md'.constantMappings = md.constantMappings ++ [m] := by exact .inl rfl
  threads : md'.threads = md.threads ∨
    ∃ t, t.entry ≠ 0 ∧ md'.threads = md.threads ++ [t] := by exact .inl rfl
  transfers : md'.transfers = md.transfers ∨
    ∃ t, e = .transfer t ∧ md'.transfers = md.transfers ++ [t] := by exact .inl rfl
  heapBehavior : md'.heapBehavior = md.heapBehavior ∨
    e.requirement? = some Requirement.heapBehavior := by exact .inl rfl
  constantsCaching : md'.constantsCaching = md.constantsCaching ∨
    e.requirement? = some Requirement.constantsCaching := by exact .inl rfl

/-- What each edit changes, if it is carried out. -/
theorem wrote_change {md : Metadata} (allowed : e.Allowed md) : Wrote md e (e.change md) := by
  cases e with
  | cores count => exact { coreTables := .inr List.length_replicate }
  | semaphores count => exact { semaphores := .inr List.length_replicate }
  | initSemaphore semaphore value => exact { semaphores := .inl ⟨rfl, List.length_set⟩ }
  | heapBehavior behavior => exact { heapBehavior := .inr rfl }
  | constantsCaching caching => exact { constantsCaching := .inr rfl }
  | transfer t => exact { transfers := .inr ⟨t, rfl, rfl⟩ }
  | coreEntry core entry => exact { coreTables := .inl ⟨rfl, List.length_modify ..⟩ }
  | thread t => exact { threads := .inr ⟨t, allowed, rfl⟩ }
  | constantMapping m => exact { constantMappings := .inr ⟨m, allowed, rfl⟩ }
  | _ =>
    -- settings and entries that nothing else depends on
    exact {}

/-- What each edit writes, if it is carried out: the list of required fields is none of these. -/
theorem wrote_of_apply (h : d.apply e = .ok d') : Wrote d.document e d'.document := by
  obtain ⟨allowed, rfl⟩ := apply_eq_ok_iff.mp h
  have wrote := wrote_change allowed
  exact ⟨wrote.coreTables, wrote.semaphores, wrote.constantMappings, wrote.threads, wrote.transfers,
    wrote.heapBehavior, wrote.constantsCaching⟩

end Draft

/-! ## The invariant -/

namespace Metadata.Consistent

variable {d d' : Draft} {e : Edit}

/-- Every edit that is carried out keeps the fields consistent. -/
theorem of_apply (sound : d.Sound) (consistent : d.document.Consistent)
    (h : d.apply e = .ok d') : d'.document.Consistent := by
  have wrote := Draft.wrote_of_apply h
  have stepped := Draft.stepped_of_apply h
  refine
    { coreTables := ?_
      semaphores := ?_
      once := ?_
      known := (sound.of_apply h).known
      apart := ?_
      started := ?_ }
  · rcases wrote.coreTables with ⟨cores, length⟩ | set
    · rw [length, cores, consistent.coreTables]
    · exact set
  · rcases wrote.semaphores with ⟨count, length⟩ | set
    · rw [length, count, consistent.semaphores]
    · exact set
  · rw [stepped.requiredFields]
    exact nodup_foldl_requiring consistent.once _
  · rcases wrote.constantMappings with same | ⟨m, free, added⟩
    · rw [same]
      exact consistent.apart
    · rw [added, List.pairwise_append]
      refine ⟨consistent.apart, List.pairwise_singleton _ m, fun other mem m' mem' => ?_⟩
      obtain rfl := List.mem_singleton.mp mem'
      exact free other mem
  · rcases wrote.threads with same | ⟨t, nonzero, added⟩
    · rw [same]
      exact consistent.started
    · rw [added, List.forall_mem_append, List.forall_mem_singleton]
      exact ⟨consistent.started, nonzero⟩

end Metadata.Consistent

namespace Draft

variable {d : Draft}

/-- A new draft has no cores, semaphores, mappings or threads, and requires nothing. -/
theorem consistent_start (major minor : UInt16) : (start major minor).document.Consistent where
  coreTables := rfl
  semaphores := rfl
  once := List.nodup_nil
  known := nofun
  apart := List.Pairwise.nil
  started := nofun

/-- **Every run of edits keeps the fields of a sound draft consistent.** -/
theorem Sound.consistent_run (sound : d.Sound) (consistent : d.document.Consistent)
    (edits : List Edit) : (d.run edits).document.Consistent := by
  have kept : (d.run edits).Sound ∧ (d.run edits).document.Consistent :=
    run_induction (motive := fun d => d.Sound ∧ d.document.Consistent)
      (fun holds applied => ⟨holds.1.of_apply applied, .of_apply holds.1 holds.2 applied⟩)
      ⟨sound, consistent⟩ edits
  exact kept.2

/-- Finishing keeps them consistent, too. -/
theorem Sound.consistent_completed (sound : d.Sound) (consistent : d.document.Consistent) :
    d.completed.Consistent where
  coreTables := consistent.coreTables
  semaphores := consistent.semaphores
  once := nodup_foldl_requiring consistent.once d.finalRequirements
  known name mem := by
    have all := List.filter_eq_nil_iff.mp sound.unsupportedFields_completed name mem
    simpa using all
  apart := consistent.apart
  started := consistent.started

end Draft

end ComputePlanner
