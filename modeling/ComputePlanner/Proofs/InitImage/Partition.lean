import ComputePlanner.Proofs.InitImage.Regions

/-! # How an init image is cut
An image is cut into the regions that are copied and the zero runs that are not. Up to 128 zeros in a
row stay in a region, longer runs do not. A region begins and ends with a byte that is not zero, unless
it does so with the image. So no region is copied for nothing but one: all of an image of zeros that
are too few to be a run of their own.

Main statement: **`copyPlan`**. -/

namespace ComputePlanner

/-- What is copied of an image and what is not. -/
structure CopyPlan (image : Bytes) : Prop where
  /-- Regions hold something and lie in the image. -/
  inside : ∀ s ∈ nonZeroSpans image, s.Inside image.length
  /-- They are in order, with more than 128 bytes between any two. -/
  gaps : (nonZeroSpans image).Pairwise fun a b => a.stop + 128 < b.start
  zerosInside : ∀ z ∈ zeroSpans image, z.Inside image.length
  zerosSorted : (zeroSpans image).Pairwise fun a b => a.stop < b.start
  /-- An offset of the image is in a region or in a zero run, not in both. -/
  partition : ∀ i < image.length,
    (∃ s ∈ nonZeroSpans image, s.Covers i) ↔ ¬∃ z ∈ zeroSpans image, z.Covers i
  /-- What is in no region is zero. -/
  zero : ∀ i < image.length, (¬∃ s ∈ nonZeroSpans image, s.Covers i) → image[i]? = some 0
  /-- No region contains more than 128 zeros in a row. -/
  short : ∀ s ∈ nonZeroSpans image, ∀ t : Span, s.start ≤ t.start → t.stop ≤ s.stop →
    t.Zero image → t.size ≤ 128
  /-- A region of zeros is there only for an image of 1 to 128 zeros. -/
  zeroRegion : (∃ s ∈ nonZeroSpans image, s.Zero image) ↔
    1 ≤ image.length ∧ image.length ≤ 128 ∧ image = List.replicate image.length 0
  /-- It is then the only one, and the whole image. -/
  single : (∃ s ∈ nonZeroSpans image, s.Zero image) → nonZeroSpans image = [⟨0, image.length⟩]
  /-- The size of a region is the distance from its start to its end. -/
  sizes : ∀ r ∈ nonZeroRegions image, r.size = r.stop - r.start
  /-- Words hold the offsets, if they hold the length of the image. -/
  offsets : image.length < 2 ^ 64 →
    (nonZeroRegions image).map (fun r => ⟨r.start.toNat, r.stop.toNat⟩) = nonZeroSpans image
  /-- Then the regions are enough to make the image out of zeros. -/
  copied : image.length < 2 ^ 64 →
    copyRegions image (List.replicate image.length 0) (nonZeroRegions image) = image

variable {image : Bytes}

/-- The region of a span that goes forward has the distance as its size, also where words wrap. -/
theorem Span.size_toRegion {s : Span} (forward : s.start ≤ s.stop) :
    s.toRegion.size = s.toRegion.stop - s.toRegion.start :=
  UInt64.ofNat_sub forward

/-- Words hold the offsets of a span inside an image whose length they hold. -/
theorem Span.Inside.offsets_toRegion {s : Span} (inside : s.Inside image.length)
    (short : image.length < 2 ^ 64) :
    (⟨s.toRegion.start.toNat, s.toRegion.stop.toNat⟩ : Span) = s := by
  have some := inside.start_lt
  have fits := inside.stop_le
  have start : s.toRegion.start.toNat = s.start :=
    UInt64.toNat_ofNat_of_lt' (show s.start < 2 ^ 64 by omega)
  have stop : s.toRegion.stop.toNat = s.stop :=
    UInt64.toNat_ofNat_of_lt' (show s.stop < 2 ^ 64 by omega)
  rw [start, stop]

/-- There is no long run in a short image. -/
theorem zeroSpans_eq_nil_of_length_le (few : image.length ≤ keptZeroRun) : zeroSpans image = [] := by
  refine List.eq_nil_iff_forall_not_mem.mpr fun z mem => ?_
  have run := (zeroSpans_zeroRuns image).maximal z mem
  have long := run.long
  have fits := run.inside.stop_le
  omega

/-- Then all of it is copied. -/
theorem nonZeroSpans_of_zeroSpans_eq_nil (some : 0 < image.length) (none : zeroSpans image = []) :
    nonZeroSpans image = [⟨0, image.length⟩] := by
  rw [nonZeroSpans, none]
  exact if_pos some

/-- A region of zeros is the whole image: where a zero run ends or begins, a byte that is not zero is
next to it. -/
theorem eq_whole_of_zero {s : Span} (mem : s ∈ nonZeroSpans image) (zero : s.Zero image) :
    s = ⟨0, image.length⟩ := by
  have zeros := zeroSpans_zeroRuns image
  have spans := nonZeroSpans_between image
  have some := (spans.inside s mem).start_lt
  have start : s.start = 0 := by
    rcases spans.begins s mem with same | ⟨z, run, same⟩
    · exact same
    · have first := zero s.start ⟨Nat.le_refl _, some⟩
      rw [same] at first
      exact absurd first (zeros.maximal z run).behind
  have stop : s.stop = image.length := by
    rcases spans.ends s mem with same | ⟨z, run, same⟩
    · exact same
    · have last := zero (s.stop - 1) ⟨by omega, by omega⟩
      exact absurd last ((zeros.maximal z run).front _ (by omega))
  obtain ⟨_, _⟩ := s
  cases start
  cases stop
  rfl

/-- A region has no offset in common with a zero run. -/
theorem not_covers_of_covers {s z : Span} (mem : s ∈ nonZeroSpans image)
    (run : z ∈ zeroSpans image) {i : Nat} (covers : s.Covers i) : ¬z.Covers i := by
  rintro ⟨after, before⟩
  obtain ⟨after', before'⟩ := covers
  rcases (nonZeroSpans_between image).apart s mem z run with front | behind <;> omega

/-- Zeros in a region are few. -/
theorem size_le_of_zero {s t : Span} (mem : s ∈ nonZeroSpans image) (after : s.start ≤ t.start)
    (before : t.stop ≤ s.stop) (zero : t.Zero image) : t.size ≤ keptZeroRun := by
  by_contra long
  rw [Span.size] at long
  -- a long run would be part of one that is cut out
  obtain ⟨z, run, start, stop⟩ :=
    (zeroSpans_zeroRuns image).complete t (Nat.zero_le _) (by omega) zero
  have covers : s.Covers t.start := ⟨after, by omega⟩
  exact not_covers_of_covers mem run covers ⟨start, by omega⟩

/-- A region of zeros is there only for an image of few zeros, and it is the whole image. -/
theorem exists_zeroRegion_iff : (∃ s ∈ nonZeroSpans image, s.Zero image) ↔
    1 ≤ image.length ∧ image.length ≤ keptZeroRun ∧
      image = List.replicate image.length 0 := by
  constructor
  · rintro ⟨s, mem, zero⟩
    have inside := (nonZeroSpans_between image).inside s mem
    have few := size_le_of_zero mem (Nat.le_refl _) (Nat.le_refl _) zero
    cases eq_whole_of_zero mem zero
    refine ⟨inside.start_lt, few, List.eq_replicate_iff.mpr ⟨rfl, fun b mem => ?_⟩⟩
    obtain ⟨i, before, rfl⟩ := List.mem_iff_getElem.mp mem
    have here := zero i ⟨Nat.zero_le i, before⟩
    rwa [List.getElem?_eq_getElem before, Option.some.injEq] at here
  · rintro ⟨some, few, zeros⟩
    have whole := nonZeroSpans_of_zeroSpans_eq_nil some (zeroSpans_eq_nil_of_length_le few)
    refine ⟨⟨0, image.length⟩, whole ▸ List.mem_singleton_self _, fun i covers => ?_⟩
    rw [zeros, List.getElem?_replicate, if_pos covers.2]

/-- **How an image is cut into what is copied and what is not.** -/
theorem copyPlan (image : Bytes) : CopyPlan image where
  inside := (nonZeroSpans_between image).inside
  gaps := by
    refine (nonZeroSpans_between image).gaps.imp fun {a b} ⟨z, run, front, behind⟩ => ?_
    have long := ((zeroSpans_zeroRuns image).maximal z run).long
    rw [keptZeroRun] at long
    omega
  zerosInside z run := ((zeroSpans_zeroRuns image).maximal z run).inside
  zerosSorted := (zeroSpans_zeroRuns image).sorted
  partition i before := by
    constructor
    · rintro ⟨s, mem, covers⟩ ⟨z, run, covers'⟩
      exact not_covers_of_covers mem run covers covers'
    · intro apart
      exact ((nonZeroSpans_between image).covered i (Nat.zero_le i) before).resolve_left apart
  zero i before apart := by
    rcases (nonZeroSpans_between image).covered i (Nat.zero_le i) before with
      ⟨z, run, covers⟩ | covered
    · exact ((zeroSpans_zeroRuns image).maximal z run).zero i covers
    · exact absurd covered apart
  short s mem t after before zero := size_le_of_zero mem after before zero
  zeroRegion := exists_zeroRegion_iff
  single := by
    intro zeroRegion
    obtain ⟨some, few, -⟩ := exists_zeroRegion_iff.mp zeroRegion
    exact nonZeroSpans_of_zeroSpans_eq_nil some (zeroSpans_eq_nil_of_length_le few)
  sizes := by
    intro r mem
    obtain ⟨s, span, rfl⟩ := List.mem_map.mp mem
    exact Span.size_toRegion (Nat.le_of_lt ((nonZeroSpans_between image).inside s span).start_lt)
  offsets short := by
    rw [nonZeroRegions, List.map_map]
    refine (List.map_congr_left fun s mem => ?_).trans (List.map_id _)
    exact ((nonZeroSpans_between image).inside s mem).offsets_toRegion short
  copied := copyRegions_nonZeroRegions

end ComputePlanner
