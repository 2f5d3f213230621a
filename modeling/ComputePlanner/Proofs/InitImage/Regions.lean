import ComputePlanner.Proofs.InitImage.ZeroRuns
import ComputePlanner.Proofs.Metadata.Edits

/-! # Copying an init image by its regions
The runtime clears the scratch memory and copies only the regions of the image into it
(**`copyRegions`**). The regions are what lies **between** the long zero runs (`Between`), so nothing is
lost.

Main statement: **`copyRegions_nonZeroRegions`**. -/

namespace ComputePlanner

/-- Memory with the regions of an image copied into it, one after the other. -/
def copyRegions (image memory : Bytes) (regions : List Region) : Bytes :=
  regions.foldl (fun memory r =>
    overwrite memory r.start.toNat ((image.drop r.start.toNat).take r.size.toNat)) memory

/-- The region of a span inside an image begins where the span does and is as long, as long as
offsets are words. -/
theorem Span.Inside.toNat_toRegion {s : Span} {length : Nat} (inside : s.Inside length)
    (short : length < 2 ^ 64) :
    s.toRegion.start.toNat = s.start ∧ s.toRegion.size.toNat = s.stop - s.start := by
  have := inside.start_lt
  have := inside.stop_le
  rw [Span.toRegion, Span.size]
  exact ⟨UInt64.toNat_ofNat_of_lt' (show s.start < 2 ^ 64 by omega),
    UInt64.toNat_ofNat_of_lt' (show s.stop - s.start < 2 ^ 64 by omega)⟩

/-! ## What lies between -/

/-- What lies between two places. -/
theorem mem_spanBetween {start stop : Nat} {s : Span} :
    s ∈ spanBetween start stop ↔ start < stop ∧ s = ⟨start, stop⟩ := by
  unfold spanBetween
  by_cases some : start < stop <;> simp [some]

/-- Spans lie between those of a list, from `cursor` up to `length`. -/
structure Between (cursor length : Nat) (zeros spans : List Span) : Prop where
  start_le : ∀ s ∈ spans, cursor ≤ s.start
  inside : ∀ s ∈ spans, s.Inside length
  begins : ∀ s ∈ spans, s.start = cursor ∨ ∃ z ∈ zeros, s.start = z.stop
  ends : ∀ s ∈ spans, s.stop = length ∨ ∃ z ∈ zeros, s.stop = z.start
  apart : ∀ s ∈ spans, ∀ z ∈ zeros, s.stop ≤ z.start ∨ z.stop ≤ s.start
  /-- One of the list is between any two. -/
  gaps : spans.Pairwise fun a b => ∃ z ∈ zeros, a.stop ≤ z.start ∧ z.stop ≤ b.start
  /-- No offset is lost. -/
  covered : ∀ i, cursor ≤ i → i < length →
    (∃ z ∈ zeros, z.Covers i) ∨ ∃ s ∈ spans, s.Covers i

namespace Between

variable {cursor length : Nat}

/-- Without spans, everything from the cursor on lies between. -/
theorem nil : Between cursor length [] (spanBetween cursor length) where
  start_le s mem := by
    obtain ⟨-, rfl⟩ := mem_spanBetween.mp mem
    exact Nat.le_refl cursor
  inside s mem := by
    obtain ⟨some, rfl⟩ := mem_spanBetween.mp mem
    exact ⟨some, Nat.le_refl length⟩
  begins s mem := by
    obtain ⟨-, rfl⟩ := mem_spanBetween.mp mem
    exact .inl rfl
  ends s mem := by
    obtain ⟨-, rfl⟩ := mem_spanBetween.mp mem
    exact .inl rfl
  apart _ _ := nofun
  gaps := by
    unfold spanBetween
    split <;> simp
  covered i after before := by
    have some := Nat.lt_of_le_of_lt after before
    exact .inr ⟨_, mem_spanBetween.mpr ⟨some, rfl⟩, after, before⟩

/-- In front of a list, what lies up to its first span is added. -/
theorem cons {z : Span} {zeros spans : List Span} (after : cursor ≤ z.start)
    (here : z.Inside length) (apart : ∀ z' ∈ zeros, z.stop ≤ z'.start)
    (rest : Between z.stop length zeros spans) :
    Between cursor length (z :: zeros) (spanBetween cursor z.start ++ spans) where
  start_le s mem := by
    rcases List.mem_append.mp mem with first | mem
    · obtain ⟨-, rfl⟩ := mem_spanBetween.mp first
      exact Nat.le_refl cursor
    · have behind := rest.start_le s mem
      have forward := here.start_lt
      omega
  inside s mem := by
    rcases List.mem_append.mp mem with first | mem
    · obtain ⟨some, rfl⟩ := mem_spanBetween.mp first
      exact ⟨some, Nat.le_trans (Nat.le_of_lt here.start_lt) here.stop_le⟩
    · exact rest.inside s mem
  begins s mem := by
    rcases List.mem_append.mp mem with first | mem
    · obtain ⟨-, rfl⟩ := mem_spanBetween.mp first
      exact .inl rfl
    · rcases rest.begins s mem with same | ⟨z', mem', same⟩
      · exact .inr ⟨z, List.mem_cons_self, same⟩
      · exact .inr ⟨z', List.mem_cons_of_mem z mem', same⟩
  ends s mem := by
    rcases List.mem_append.mp mem with first | mem
    · obtain ⟨-, rfl⟩ := mem_spanBetween.mp first
      exact .inr ⟨z, List.mem_cons_self, rfl⟩
    · rcases rest.ends s mem with same | ⟨z', mem', same⟩
      · exact .inl same
      · exact .inr ⟨z', List.mem_cons_of_mem z mem', same⟩
  apart s mem := by
    have forward := here.start_lt
    rcases List.mem_append.mp mem with first | mem
    · obtain ⟨-, rfl⟩ := mem_spanBetween.mp first
      refine List.forall_mem_cons.mpr ⟨.inl (Nat.le_refl _), fun z' mem' => ?_⟩
      have behind := apart z' mem'
      left
      dsimp only
      omega
    · exact List.forall_mem_cons.mpr ⟨.inr (rest.start_le s mem), rest.apart s mem⟩
  gaps := by
    refine List.pairwise_append.mpr ⟨?_, ?_, ?_⟩
    · unfold spanBetween
      split <;> simp
    · refine rest.gaps.imp fun {a b} ⟨z', mem', between⟩ => ?_
      exact ⟨z', List.mem_cons_of_mem z mem', between⟩
    · intro a first b mem
      obtain ⟨-, rfl⟩ := mem_spanBetween.mp first
      exact ⟨z, List.mem_cons_self, Nat.le_refl _, rest.start_le b mem⟩
  covered i after before := by
    by_cases front : i < z.start
    · have some := Nat.lt_of_le_of_lt after front
      exact .inr ⟨_, List.mem_append_left _ (mem_spanBetween.mpr ⟨some, rfl⟩), after, front⟩
    · by_cases inside : i < z.stop
      · exact .inl ⟨z, List.mem_cons_self, Nat.le_of_not_lt front, inside⟩
      · rcases rest.covered i (Nat.le_of_not_lt inside) before with
          ⟨z', mem, covers⟩ | ⟨s, mem, covers⟩
        · exact .inl ⟨z', List.mem_cons_of_mem z mem, covers⟩
        · exact .inr ⟨s, List.mem_append_right _ mem, covers⟩

end Between

/-- **What lies between spans in order**, which may touch. -/
theorem complementFrom_between {cursor length : Nat} {zeros : List Span}
    (fit : ∀ z ∈ zeros, z.Inside length) (after : ∀ z ∈ zeros, cursor ≤ z.start)
    (sorted : zeros.Pairwise fun a b => a.stop ≤ b.start) :
    Between cursor length zeros (complementFrom cursor length zeros) := by
  induction zeros generalizing cursor with
  | nil => exact .nil
  | cons z zeros ih =>
    obtain ⟨here, fit⟩ := List.forall_mem_cons.mp fit
    obtain ⟨first, -⟩ := List.forall_mem_cons.mp after
    obtain ⟨apart, sorted⟩ := List.pairwise_cons.mp sorted
    exact .cons first here apart (ih fit apart sorted)

/-- The spans that have to be copied lie between the long zero runs. -/
theorem nonZeroSpans_between (image : Bytes) :
    Between 0 image.length (zeroSpans image) (nonZeroSpans image) := by
  have zeros := zeroSpans_zeroRuns image
  exact complementFrom_between (fun z mem => (zeros.maximal z mem).inside) zeros.start_le
    (zeros.sorted.imp Nat.le_of_lt)

/-! ## Copying -/

variable {image memory : Bytes}

/-- The part of an image under a span reaches from the start of the span to its end. -/
theorem Span.Inside.length_part {s : Span} (inside : s.Inside image.length) :
    s.start + ((image.drop s.start).take (s.stop - s.start)).length = s.stop := by
  have nonempty := inside.start_lt
  have fits := inside.stop_le
  rw [List.length_take, List.length_drop]
  omega

/-- A part of an image, put into memory where it was, shows where its span covers the memory. -/
theorem getElem?_overwrite_part {s : Span} (inside : s.Inside image.length)
    (length : memory.length = image.length) (i : Nat) :
    (s.Covers i → (overwrite memory s.start ((image.drop s.start).take (s.stop - s.start)))[i]?
      = image[i]?) ∧
    (¬s.Covers i → (overwrite memory s.start ((image.drop s.start).take (s.stop - s.start)))[i]?
      = memory[i]?) := by
  have fits := inside.stop_le
  have part := inside.length_part
  rw [getElem?_overwrite (by omega), part]
  constructor
  · rintro ⟨after, before⟩
    rw [if_pos ⟨after, before⟩, List.getElem?_take_of_lt (by omega), List.getElem?_drop,
      Nat.add_sub_cancel' after]
  · intro apart
    exact if_neg apart

open Classical in
/-- Copied memory is the image where a span covers it, and what it was elsewhere. -/
theorem getElem?_copyRegions {spans : List Span} (short : image.length < 2 ^ 64)
    (fit : ∀ s ∈ spans, s.Inside image.length) (length : memory.length = image.length) (i : Nat) :
    (copyRegions image memory (spans.map (·.toRegion)))[i]?
      = if ∃ s ∈ spans, s.Covers i then image[i]? else memory[i]? := by
  induction spans generalizing memory with
  | nil => simp [copyRegions]
  | cons s spans ih =>
    obtain ⟨here, later⟩ := List.forall_mem_cons.mp fit
    obtain ⟨start, size⟩ := here.toNat_toRegion short
    obtain ⟨covered, apart⟩ := getElem?_overwrite_part here length i
    have fits := here.stop_le
    have part := here.length_part
    have kept : (overwrite memory s.start ((image.drop s.start).take (s.stop - s.start))).length
        = image.length := (length_overwrite (by omega)).trans length
    have rest := ih later kept
    rw [copyRegions] at rest
    rw [copyRegions, List.map_cons, List.foldl_cons, start, size, rest]
    simp only [List.exists_mem_cons_iff]
    by_cases again : ∃ s ∈ spans, s.Covers i
    · rw [if_pos again, if_pos (.inr again)]
    · rw [if_neg again]
      by_cases covers : s.Covers i
      · rw [if_pos (.inl covers), covered covers]
      · rw [if_neg (not_or_intro covers again), apart covers]

/-- **Copying only the regions of an image into cleared memory gives the image**, if offsets in it are
words. -/
theorem copyRegions_nonZeroRegions (short : image.length < 2 ^ 64) :
    copyRegions image (List.replicate image.length 0) (nonZeroRegions image) = image := by
  have zeros := zeroSpans_zeroRuns image
  have spans := nonZeroSpans_between image
  apply List.ext_getElem?
  intro i
  rw [nonZeroRegions, getElem?_copyRegions short spans.inside List.length_replicate]
  split
  · rfl
  · next apart =>
    rw [List.getElem?_replicate]
    split
    · next before =>
      -- what no region covers is in a zero run
      rcases spans.covered i (Nat.zero_le i) before with ⟨z, mem, covers⟩ | covered
      · exact ((zeros.maximal z mem).zero i covers).symm
      · exact absurd covered apart
    · next behind =>
      exact (List.getElem?_eq_none (Nat.le_of_not_lt behind)).symm

end ComputePlanner
