import ComputePlanner.InitImage
import ComputePlanner.Metadata.Codec
import ComputePlanner.Proofs.Record.Length

/-! # Documents whose fields are short
A document can be read back if 32 bits hold the lengths of its fields. **`Metadata.Small`** bounds the
number of entries in each of its lists, far above what hardware has; then the lengths fit
(**`Metadata.Small.length_field_lt`**), since an entry is a few words. Only texts and the init image
can have any length. -/

namespace ComputePlanner

/-! ## Regions -/

/-- At most one span is between two places. -/
theorem length_spanBetween_le (start stop : Nat) : (spanBetween start stop).length ≤ 1 := by
  rw [spanBetween]
  split
  · exact Nat.le_refl 1
  · exact Nat.zero_le 1

/-- An image has no more zero runs than bytes, and one that ends with it. -/
theorem length_zeroSpansFrom_le (offset run : Nat) (image : Bytes) :
    (zeroSpansFrom offset run image).length ≤ image.length + 1 := by
  induction image generalizing offset run with
  | nil =>
    rw [zeroSpansFrom]
    split
    · exact Nat.le_refl 1
    · exact Nat.zero_le 1
  | cons b image ih =>
    have later := ih (offset + 1)
    rw [zeroSpansFrom, List.length_cons]
    split
    · exact Nat.le_succ_of_le (later (run + 1))
    · split
      · exact Nat.succ_le_succ (later 0)
      · exact Nat.le_succ_of_le (later 0)

/-- Spans leave at most one more span over. -/
theorem length_complementFrom_le (start length : Nat) (zeros : List Span) :
    (complementFrom start length zeros).length ≤ zeros.length + 1 := by
  induction zeros generalizing start with
  | nil => exact length_spanBetween_le start length
  | cons zero zeros ih =>
    have first := length_spanBetween_le start zero.start
    have later := ih zero.stop
    rw [complementFrom, List.length_append, List.length_cons]
    omega

/-- An image has at most two more regions than bytes. -/
theorem length_nonZeroRegions_le (image : Bytes) :
    (nonZeroRegions image).length ≤ image.length + 2 := by
  have zeros := length_zeroSpansFrom_le 0 0 image
  have others := length_complementFrom_le 0 image.length (zeroSpans image)
  rw [zeroSpans] at others
  rw [nonZeroRegions, List.length_map, nonZeroSpans, complement, zeroSpans]
  omega

/-! ## Documents -/

/-- A document with few entries, whose texts and image 32 bits can say the length of. -/
structure Metadata.Small (md : Metadata) : Prop where
  name : (Utf8.encode md.name).length < 2 ^ 32
  image : md.initImage.length < 2 ^ 32
  semaphores : md.semaphoreInit.length ≤ 2 ^ 16
  regions : md.initRegions.length ≤ 2 ^ 16
  coreTables : md.coreTables.length ≤ 2 ^ 6
  coreTable : ∀ t ∈ md.coreTables, t.length ≤ 2 ^ 16
  hostTable : md.hostTable.length ≤ 2 ^ 16
  transfers : md.transfers.length ≤ 2 ^ 16
  transfer : ∀ t ∈ md.transfers, t.semaphores.length ≤ 2 ^ 4 ∧ t.doorbells.length ≤ 2 ^ 4
  threads : md.threads.length ≤ 2 ^ 16
  mappings : md.constantMappings.length ≤ 2 ^ 16
  ports : md.ports.length ≤ 2 ^ 16
  requiredFields : (Value.texts md.requiredFields).data.length < 2 ^ 32
  context : (Value.record md.context.toRecord).data.length < 2 ^ 32

namespace Metadata.Small

variable {md : Metadata}

/-- The table of a core is a list of records of words. -/
theorem bounded_coreTable (small : md.Small) :
    ∀ t ∈ md.coreTables,
      Record.Bounded [⟨1, .records (t.map (·.toRecord))⟩] 1 (2 ^ 16 * (5 * (8 + 8) + 8) + 4) := by
  intro t mem
  refine ⟨Nat.le_refl 1, List.forall_mem_singleton.mpr ?_⟩
  refine length_data_records_le (small.coreTable t mem) fun e _ => .of_words (Nat.le_refl _) ?_
  simp [MulticastEntry.toRecord, Value.IsWord]

/-- A transfer is a record of words but for two lists of records of words. -/
theorem bounded_transfer (small : md.Small) :
    ∀ t ∈ md.transfers, t.toRecord.Bounded 11 (2 ^ 4 * (6 * (8 + 8) + 8) + 4) := by
  intro t mem
  obtain ⟨fewSemaphores, fewDoorbells⟩ := small.transfer t mem
  have semaphores : (Value.records (t.semaphores.map (·.toRecord))).data.length
      ≤ 2 ^ 4 * (6 * (8 + 8) + 8) + 4 := by
    refine length_data_records_le fewSemaphores fun op _ => .of_words (Nat.le_refl _) ?_
    simp [SemaphoreOp.toRecord, Value.IsWord]
  have doorbells : (Value.records (t.doorbells.map (·.toRecord))).data.length
      ≤ 2 ^ 4 * (4 * (8 + 8) + 8) + 4 := by
    refine length_data_records_le fewDoorbells fun op _ => .of_words (Nat.le_refl _) ?_
    simp [DoorbellOp.toRecord, Value.IsWord]
  have either : ∀ f ∈ t.toRecord,
      f.value.IsWord ∨ f.value.data.length ≤ 2 ^ 4 * (6 * (8 + 8) + 8) + 4 := by
    simp only [Transfer.toRecord, List.forall_mem_cons, Value.IsWord, true_or, false_or, true_and]
    exact ⟨semaphores, doorbells.trans (by decide), nofun⟩
  refine ⟨Nat.le_refl 11, fun f mem => ?_⟩
  rcases either f mem with word | short
  · exact word.length_data_le.trans (by decide)
  · exact short

/-- **32 bits hold the lengths of its fields.** -/
theorem length_field_lt (small : md.Small) :
    ∀ f ∈ md.toRecord, f.value.data.length < 2 ^ 32 := by
  have semaphores : (Value.words md.semaphoreInit).data.length < 2 ^ 32 := by
    have few := small.semaphores
    rw [Value.data, List.length_append, length_count32, length_words]
    omega
  have regions : (Value.records (md.initRegions.map (·.toRecord))).data.length
      ≤ 2 ^ 16 * (3 * (8 + 8) + 8) + 4 := by
    refine length_data_records_le small.regions fun r _ => .of_words (Nat.le_refl _) ?_
    simp [Region.toRecord, Value.IsWord]
  have coreTables : (Value.records (md.coreTables.map fun t =>
      [⟨1, .records (t.map (·.toRecord))⟩])).data.length
        ≤ 2 ^ 6 * (1 * (2 ^ 16 * (5 * (8 + 8) + 8) + 4 + 8) + 8) + 4 :=
    length_data_records_le small.coreTables small.bounded_coreTable
  have entries : (Value.records (md.hostTable.map (·.toRecord))).data.length
      ≤ 2 ^ 16 * (2 * (8 + 8) + 8) + 4 := by
    refine length_data_records_le small.hostTable fun e _ => .of_words (Nat.le_refl _) ?_
    simp [HostEntry.toRecord, Value.IsWord]
  have hostTable : (Value.record [⟨1, .records (md.hostTable.map (·.toRecord))⟩]).data.length
      ≤ 1 * (2 ^ 16 * (2 * (8 + 8) + 8) + 4 + 8) + 4 :=
    Record.Bounded.length_encode ⟨Nat.le_refl 1, List.forall_mem_singleton.mpr entries⟩
  have transfers : (Value.records (md.transfers.map (·.toRecord))).data.length
      ≤ 2 ^ 16 * (11 * (2 ^ 4 * (6 * (8 + 8) + 8) + 4 + 8) + 8) + 4 :=
    length_data_records_le small.transfers small.bounded_transfer
  have threads : (Value.records (md.threads.map (·.toRecord))).data.length
      ≤ 2 ^ 16 * (2 * (8 + 8) + 8) + 4 := by
    refine length_data_records_le small.threads fun t _ => .of_words (Nat.le_refl _) ?_
    simp [Thread.toRecord, Value.IsWord]
  have mappings : (Value.records (md.constantMappings.map (·.toRecord))).data.length
      ≤ 2 ^ 16 * (3 * (8 + 8) + 8) + 4 := by
    refine length_data_records_le small.mappings fun m _ => .of_words (Nat.le_refl _) ?_
    simp [ConstantMapping.toRecord, Value.IsWord]
  have ports : (Value.records (md.ports.map (·.toRecord))).data.length
      ≤ 2 ^ 16 * (2 * (8 + 8) + 8) + 4 := by
    refine length_data_records_le small.ports fun p _ => .of_words (Nat.le_refl _) ?_
    simp [Port.toRecord, Value.IsWord]
  have caching : (Value.record [⟨1, .u8 md.constantsCaching.code⟩]).data.length
      ≤ 1 * (8 + 8) + 4 := by
    refine (Record.Bounded.of_words (Nat.le_refl 1) ?_).length_encode
    simp [Value.IsWord]
  have either : ∀ f ∈ md.toRecord, f.value.IsWord ∨ f.value.data.length < 2 ^ 32 := by
    simp only [toRecord, List.forall_mem_cons, Value.IsWord, true_or, false_or, true_and]
    exact ⟨small.name, semaphores, small.image, regions.trans_lt (by decide),
      coreTables.trans_lt (by decide), hostTable.trans_lt (by decide),
      transfers.trans_lt (by decide), threads.trans_lt (by decide), mappings.trans_lt (by decide),
      ports.trans_lt (by decide), caching.trans_lt (by decide), small.requiredFields,
      small.context, nofun⟩
  intro f mem
  rcases either f mem with word | short
  · exact word.length_data_le.trans_lt (by decide)
  · exact short

end Metadata.Small

end ComputePlanner
