import ComputePlanner.Proofs.Metadata.Consistency

/-! # Features that readers are told of
A reader that does not know a feature must refuse a document that uses it, so a document requires what
it uses. Requirements are noted where a feature is set or used, they are never taken back, and finishing
notes those of every document. **`Metadata.Announces`** is the invariant of the features, and
**`Draft.prefix_run`** says that the list of required fields only goes on at its end.

Main statement: **`Draft.announced_of_run`**. -/

namespace ComputePlanner

/-- A document requires the features that it uses. -/
structure Metadata.Announces (md : Metadata) : Prop where
  heapBehavior : md.heapBehavior ≠ .free → Requirement.heapBehavior ∈ md.requiredFields
  constantsCaching :
    md.constantsCaching ≠ .disabled → Requirement.constantsCaching ∈ md.requiredFields
  dynamicDdr : ∀ t ∈ md.transfers, t.space = .dynamicDdr → 0 < t.size →
    Requirement.dynamicDdr ∈ md.requiredFields

/-- A document that requires more requires the features, too. -/
theorem Metadata.Announces.mono {md md' : Metadata} (announces : md.Announces)
    (more : md.requiredFields ⊆ md'.requiredFields) (heap : md'.heapBehavior = md.heapBehavior)
    (caching : md'.constantsCaching = md.constantsCaching)
    (transfers : md'.transfers = md.transfers) : md'.Announces where
  heapBehavior other := more (announces.heapBehavior (heap ▸ other))
  constantsCaching other := more (announces.constantsCaching (caching ▸ other))
  dynamicDdr t mem space size := more (announces.dynamicDdr t (transfers ▸ mem) space size)

namespace Draft

variable {d d' : Draft} {e : Edit}

/-! ## One edit -/

/-- The list of required fields goes on as it began. -/
theorem Stepped.prefix_requiredFields (stepped : Stepped d e d') :
    d.document.requiredFields <+: d'.document.requiredFields := by
  rw [stepped.requiredFields]
  exact prefix_foldl_requiring _ _

/-- What an edit requires is required from then on. -/
theorem Stepped.mem_requiredFields (stepped : Stepped d e d') {name : String}
    (requirement : e.requirement? = some name) : name ∈ d'.document.requiredFields := by
  rw [stepped.requiredFields, requirement]
  exact mem_requiring.mpr (.inr rfl)

/-- Every edit that is carried out requires the features that it sets or uses. -/
theorem announces_of_apply (announces : d.document.Announces) (h : d.apply e = .ok d') :
    d'.document.Announces := by
  have wrote := wrote_of_apply h
  have stepped := stepped_of_apply h
  have kept := stepped.prefix_requiredFields.subset
  refine ⟨fun other => ?_, fun other => ?_, fun t mem space size => ?_⟩
  · rcases wrote.heapBehavior with same | set
    · exact kept (announces.heapBehavior (same ▸ other))
    · exact stepped.mem_requiredFields set
  · rcases wrote.constantsCaching with same | set
    · exact kept (announces.constantsCaching (same ▸ other))
    · exact stepped.mem_requiredFields set
  · have old (mem : t ∈ d.document.transfers) := kept (announces.dynamicDdr t mem space size)
    rcases wrote.transfers with same | ⟨new, is, added⟩
    · exact old (same ▸ mem)
    · rw [added, List.mem_append, List.mem_singleton] at mem
      rcases mem with before | rfl
      · exact old before
      · -- the transfer that was added is the one that needs the feature
        have uses : usesDynamicDdr t = true := by simp [usesDynamicDdr, space, size]
        refine stepped.mem_requiredFields ?_
        rw [is, Edit.requirement?, if_pos uses]

/-! ## Runs -/

/-- A new draft uses no feature. -/
theorem announces_start (major minor : UInt16) : (start major minor).document.Announces where
  heapBehavior other := absurd rfl other
  constantsCaching other := absurd rfl other
  dynamicDdr := nofun

/-- **The list of required fields only goes on at its end.** -/
theorem prefix_run (d : Draft) (edits : List Edit) :
    d.document.requiredFields <+: (d.run edits).document.requiredFields :=
  run_induction (motive := fun d' => d.document.requiredFields <+: d'.document.requiredFields)
    (fun begun applied => begun.trans (stepped_of_apply applied).prefix_requiredFields)
    (List.prefix_refl _) edits

/-- **Every run of edits leaves the features required that are used.** -/
theorem announces_run (announces : d.document.Announces) (edits : List Edit) :
    (d.run edits).document.Announces :=
  run_induction (motive := fun d => d.document.Announces) announces_of_apply announces edits

/-- A run goes on where the run before it stopped. -/
theorem run_append (d : Draft) (edits edits' : List Edit) :
    d.run (edits ++ edits') = (d.run edits).run edits' :=
  List.foldl_append

/-! ## Finishing -/

/-- Finishing adds to the list of required fields at its end. -/
theorem prefix_completed (d : Draft) :
    d.document.requiredFields <+: d.completed.requiredFields :=
  prefix_foldl_requiring _ _

/-- What every document requires is required of one that a sound draft is completed to. -/
theorem Sound.mem_completed (sound : d.Sound) {name : String}
    (always : name ∈ [Requirement.requiredFields, Requirement.contextContract,
      Requirement.networkName]) : name ∈ d.completed.requiredFields := by
  have list : d.completed.requiredFields = _ := sound.requiredFields_described
  rw [list, List.mem_append]
  by_cases old : name ∈ d.document.requiredFields
  · exact .inl old
  · exact .inr (List.mem_filter.mpr ⟨always, by simpa using old⟩)

/-- What a run of edits and finishing it require. -/
structure Announced (d : Draft) (edits : List Edit) (doc : Document) : Prop where
  /-- Every document requires the list itself, the name and the context block. -/
  always : ∀ name ∈ [Requirement.requiredFields, Requirement.contextContract,
    Requirement.networkName], name ∈ doc.metadata.requiredFields
  /-- It requires the features that it uses. -/
  features : doc.metadata.Announces
  /-- On the way, an earlier list begins a later one. -/
  grows : ∀ before after, before <+: after → after <+: edits →
    (d.run before).document.requiredFields <+: (d.run after).document.requiredFields
  /-- Every list on the way begins that of the document. -/
  begins : ∀ before, before <+: edits →
    (d.run before).document.requiredFields <+: doc.metadata.requiredFields

/-- **A document that a run of edits is finished to requires what it uses**, whatever was set,
overwritten or refused on the way. -/
theorem announced_of_run {major minor : UInt16} {edits : List Edit} {doc : Document}
    (finished : ((start major minor).run edits).finish = .ok doc) :
    Announced (start major minor) edits doc := by
  have sound : ((start major minor).run edits).Sound := (sound_start major minor).run edits
  have announces : ((start major minor).run edits).document.Announces :=
    announces_run (announces_start major minor) edits
  have grows {before after : List Edit} (earlier : before <+: after) :
      ((start major minor).run before).document.requiredFields
        <+: ((start major minor).run after).document.requiredFields := by
    obtain ⟨between, rfl⟩ := earlier
    rw [run_append]
    exact prefix_run _ between
  obtain ⟨-, rfl⟩ := finish_eq_ok_iff.mp finished
  have last := prefix_completed ((start major minor).run edits)
  exact
    { always := fun name mem => sound.mem_completed mem
      features := announces.mono last.subset rfl rfl rfl
      grows := fun before after earlier _ => grows earlier
      begins := fun before earlier => (grows earlier).trans last }

/-- A run that sets a feature and takes it back, uses another and chooses a context block. -/
def featureRun : List Edit :=
  [.cores 1, .vtcmSize 4096, .l2tcmSize 4096, .heapBehavior .retain, .heapBehavior .free,
    .transfer
      { number := 0, hostOffset := 0, space := .dynamicDdr, deviceOffset := 0, size := 256
        direction := .inward, port := 0, group := 0, semaphores := [], doorbells := []
        transaction := 0 },
    .context ⟨64, []⟩]

/-- The run can be finished, and its document requires the memory that the transfer goes to. -/
theorem announced_of_run_features :
    ∃ doc, ((start 2 0).run featureRun).finish = .ok doc ∧
      Announced (start 2 0) featureRun doc ∧
      Requirement.dynamicDdr ∈ doc.metadata.requiredFields := by
  have complete : ((start 2 0).run featureRun).Complete :=
    ⟨by decide +kernel, by decide +kernel, by decide +kernel, by decide +kernel⟩
  obtain ⟨doc, finished⟩ := exists_finish_iff.mpr complete
  have announced := announced_of_run finished
  refine ⟨doc, finished, announced, ?_⟩
  have used : Requirement.dynamicDdr
      ∈ ((start 2 0).run featureRun).document.requiredFields := by decide +kernel
  exact (announced.begins featureRun (List.prefix_refl _)).subset used

end Draft

end ComputePlanner
