import ComputePlanner.Proofs.InitImage.Partition

/-! # The complement of spans
What spans in order leave over of an image is again a list of spans in order, and no two of these touch,
since something that was left out lies between them. So the complement forgets only where the spans
touched: taken twice, it gives back a list of spans that are apart (**`complement_complement`**).

The induction for that needs the gap that is still open when the list goes on: what lies in front of the
cursor is listed as soon as the next span is known.

Main statement: **`complement_leftOver`**, and for the regions of a document
**`complementRegions_leftOver`**. -/

namespace ComputePlanner

/-- Spans of the first `length` offsets in order: none is empty, and none begins before the ones in front
of it have ended. -/
structure InOrder (length : Nat) (spans : List Span) : Prop where
  inside : ∀ s ∈ spans, s.Inside length
  sorted : spans.Pairwise fun a b => a.stop ≤ b.start

/-- What is left over of the first `length` offsets by spans. -/
structure LeftOver (length : Nat) (zeros spans : List Span) : Prop where
  inside : ∀ s ∈ spans, s.Inside length
  /-- The spans are in order, and no two of them touch. -/
  apart : spans.Pairwise fun a b => a.stop < b.start
  covers_iff : ∀ i, (∃ s ∈ spans, s.Covers i) ↔ i < length ∧ ¬∃ z ∈ zeros, z.Covers i
  /-- The spans are written as regions that say the same, if a word holds the length. -/
  regions : length < 2 ^ 64 → ∀ s ∈ spans,
    s.toRegion.start.toNat = s.start ∧ s.toRegion.stop.toNat = s.stop ∧
      s.toRegion.size.toNat = s.stop - s.start

variable {start cursor length : Nat} {zeros spans : List Span}

/-! ## Taking the complement twice -/

/-- Between two places in order there is one span. -/
theorem spanBetween_of_lt (some : start < cursor) : spanBetween start cursor = [⟨start, cursor⟩] :=
  if_pos some

/-- Between a place and itself there is nothing. -/
@[simp] theorem spanBetween_self (i : Nat) : spanBetween i i = [] := if_neg (Nat.lt_irrefl i)

/-- With a gap open in front of the cursor, the complement of what lies between is the gap and the
spans. -/
theorem complementFrom_complementFrom_of_lt (gap : start < cursor) (fits : cursor ≤ length)
    (inside : ∀ z ∈ zeros, z.Inside length) (after : ∀ z ∈ zeros, cursor < z.start)
    (apart : zeros.Pairwise fun a b => a.stop < b.start) :
    complementFrom start length (complementFrom cursor length zeros) = ⟨start, cursor⟩ :: zeros := by
  induction zeros generalizing start cursor with
  | nil =>
    rcases Nat.lt_or_eq_of_le fits with more | rfl
    · simp [complementFrom, spanBetween_of_lt more, spanBetween_of_lt gap]
    · simp [complementFrom, spanBetween_of_lt gap]
  | cons z zeros ih =>
    obtain ⟨here, inside⟩ := List.forall_mem_cons.mp inside
    obtain ⟨first, -⟩ := List.forall_mem_cons.mp after
    obtain ⟨behind, apart⟩ := List.pairwise_cons.mp apart
    -- up to the span there is one more, which closes the gap; the span itself is open then
    rw [complementFrom, spanBetween_of_lt first, List.singleton_append, complementFrom,
      spanBetween_of_lt gap, List.singleton_append, ih here.start_lt here.stop_le inside behind apart]

/-- From a cursor that no span is in front of, taking the complement twice changes nothing. -/
theorem complementFrom_complementFrom (inside : ∀ z ∈ zeros, z.Inside length)
    (after : ∀ z ∈ zeros, cursor ≤ z.start) (apart : zeros.Pairwise fun a b => a.stop < b.start) :
    complementFrom cursor length (complementFrom cursor length zeros) = zeros := by
  cases zeros with
  | nil =>
    by_cases more : cursor < length
    · simp [complementFrom, spanBetween_of_lt more]
    · simp [complementFrom, spanBetween, more]
  | cons z zeros =>
    obtain ⟨here, inside⟩ := List.forall_mem_cons.mp inside
    obtain ⟨first, -⟩ := List.forall_mem_cons.mp after
    obtain ⟨behind, apart⟩ := List.pairwise_cons.mp apart
    have rest {i : Nat} (gap : i < z.stop) :
        complementFrom i length (complementFrom z.stop length zeros) = ⟨i, z.stop⟩ :: zeros :=
      complementFrom_complementFrom_of_lt gap here.stop_le inside behind apart
    rw [complementFrom]
    rcases Nat.lt_or_eq_of_le first with later | rfl
    · rw [spanBetween_of_lt later, List.singleton_append, complementFrom, spanBetween_self,
        List.nil_append, rest here.start_lt]
    · rw [spanBetween_self, List.nil_append, rest here.start_lt]

/-- **Spans that are apart are the complement of what they leave over.** -/
theorem complement_complement (inside : ∀ z ∈ zeros, z.Inside length)
    (apart : zeros.Pairwise fun a b => a.stop < b.start) :
    complement (complement zeros length) length = zeros :=
  complementFrom_complementFrom inside (fun z _ => Nat.zero_le z.start) apart

/-! ## What is left over -/

/-- What lies between spans that are not empty is what they leave over. -/
theorem Between.leftOver (between : Between 0 length zeros spans)
    (inside : ∀ z ∈ zeros, z.Inside length) : LeftOver length zeros spans where
  inside := between.inside
  apart := by
    refine between.gaps.imp fun {a b} ⟨z, mem, front, behind⟩ => ?_
    have some := (inside z mem).start_lt
    omega
  covers_iff i := by
    constructor
    · rintro ⟨s, mem, after, before⟩
      have fits := (between.inside s mem).stop_le
      refine ⟨by omega, ?_⟩
      rintro ⟨z, mem', after', before'⟩
      rcases between.apart s mem z mem' with front | behind <;> omega
    · rintro ⟨before, left⟩
      exact (between.covered i (Nat.zero_le i) before).resolve_left left
  regions short s mem := by
    have here := between.inside s mem
    obtain ⟨start, size⟩ := here.toNat_toRegion short
    have word : s.stop < 2 ^ 64 := Nat.lt_of_le_of_lt here.stop_le short
    exact ⟨start, UInt64.toNat_ofNat_of_lt' word, size⟩

/-- What the complement of spans in order leaves over. -/
theorem InOrder.leftOver (ordered : InOrder length zeros) :
    LeftOver length zeros (complement zeros length) :=
  (complementFrom_between ordered.inside (fun z _ => Nat.zero_le z.start) ordered.sorted).leftOver
    ordered.inside

/-- Spans in order that do not touch are the complement of it. -/
theorem InOrder.complement_complement (ordered : InOrder length zeros)
    (untouched : zeros.Pairwise fun a b => a.stop ≠ b.start) :
    complement (complement zeros length) length = zeros := by
  refine ComputePlanner.complement_complement ordered.inside ?_
  exact ordered.sorted.imp₂ (fun _ _ before apart => Nat.lt_of_le_of_ne before apart) untouched

/-- **What the complement is**: spans in order that do not touch and cover just the offsets that were left
over; and if the spans did not touch either, they are the complement of that. -/
theorem complement_leftOver (ordered : InOrder length zeros) :
    LeftOver length zeros (complement zeros length) ∧
      ((zeros.Pairwise fun a b => a.stop ≠ b.start) →
        complement (complement zeros length) length = zeros) :=
  ⟨ordered.leftOver, ordered.complement_complement⟩

/-- Two spans, one of them at the front, and what they leave over. -/
theorem complement_leftOver_two :
    let zeros : List Span := [⟨0, 3⟩, ⟨5, 9⟩]
    InOrder 12 zeros ∧ (zeros.Pairwise fun a b => a.stop ≠ b.start) ∧
      LeftOver 12 zeros [⟨3, 5⟩, ⟨9, 12⟩] ∧ complement [⟨3, 5⟩, ⟨9, 12⟩] 12 = zeros := by
  intro zeros
  have inside : ∀ z ∈ zeros, z.Inside 12 := by
    refine List.forall_mem_cons.mpr ⟨⟨by decide, by decide⟩, ?_⟩
    exact List.forall_mem_singleton.mpr ⟨by decide, by decide⟩
  have ordered : InOrder 12 zeros := ⟨inside, by simp [zeros]⟩
  have untouched : zeros.Pairwise fun a b => a.stop ≠ b.start := by simp [zeros]
  obtain ⟨left, twice⟩ := complement_leftOver ordered
  exact ⟨ordered, untouched, left, twice untouched⟩

/-- Spans that touch come back as one. -/
example : complement (complement [⟨0, 3⟩, ⟨3, 5⟩] 8) 8 = [⟨0, 5⟩] := by decide

/-! ## Regions

A document lists regions, which say their size beside their ends. The complement does not look at the
sizes, and it gives each of its own regions the right one. -/

/-- The span of a region. -/
def Region.toSpan (r : Region) : Span := ⟨r.start.toNat, r.stop.toNat⟩

/-- A region has the size that its ends say. -/
def Region.Sized (r : Region) : Prop := r.size = r.stop - r.start

/-- What regions leave over of the first `length` offsets, as regions. -/
def complementRegions (zeros : List Region) (length : UInt64) : List Region :=
  (complement (zeros.map (·.toSpan)) length.toNat).map (·.toRegion)

/-- The region of a span is that span, as long as offsets are words. -/
theorem Span.Inside.toSpan_toRegion {s : Span} {length : UInt64} (inside : s.Inside length.toNat) :
    s.toRegion.toSpan = s := by
  obtain ⟨start, -⟩ := inside.toNat_toRegion length.toNat_lt
  have stop : s.toRegion.stop.toNat = s.stop :=
    UInt64.toNat_ofNat_of_lt' (Nat.lt_of_le_of_lt inside.stop_le length.toNat_lt)
  rw [Region.toSpan, start, stop]

/-- It has the right size. -/
theorem Span.Inside.sized_toRegion {s : Span} {length : Nat} (inside : s.Inside length) :
    s.toRegion.Sized :=
  UInt64.ofNat_sub (Nat.le_of_lt inside.start_lt)

/-- A region with the right size is told by its span. -/
theorem Region.Sized.toRegion_toSpan {r : Region} (sized : r.Sized) (forward : r.start ≤ r.stop) :
    r.toSpan.toRegion = r := by
  have size : UInt64.ofNat (r.stop.toNat - r.start.toNat) = r.size := by
    rw [sized, UInt64.ofNat_sub (UInt64.le_iff_toNat_le.mp forward), UInt64.ofNat_toNat,
      UInt64.ofNat_toNat]
  rw [toSpan, Span.toRegion, Span.size, UInt64.ofNat_toNat, UInt64.ofNat_toNat, size]

/-- **What regions leave over are regions with the right sizes**, and regions with the right sizes that do
not touch are given back by taking the complement twice. -/
theorem complementRegions_leftOver {zeros : List Region} {length : UInt64}
    (ordered : InOrder length.toNat (zeros.map (·.toSpan))) :
    LeftOver length.toNat (zeros.map (·.toSpan))
        ((complementRegions zeros length).map (·.toSpan)) ∧
      (∀ r ∈ complementRegions zeros length, r.Sized) ∧
      ((∀ z ∈ zeros, z.Sized) → (zeros.Pairwise fun a b => a.stop ≠ b.start) →
        complementRegions (complementRegions zeros length) length = zeros) := by
  have left := ordered.leftOver
  have spans : (complementRegions zeros length).map (·.toSpan)
      = complement (zeros.map (·.toSpan)) length.toNat := by
    rw [complementRegions, List.map_map]
    exact (List.map_congr_left fun s mem => (left.inside s mem).toSpan_toRegion).trans (List.map_id _)
  refine ⟨spans ▸ left, fun r mem => ?_, fun sized untouched => ?_⟩
  · obtain ⟨s, there, rfl⟩ := List.mem_map.mp mem
    exact (left.inside s there).sized_toRegion
  · have apart : (zeros.map (·.toSpan)).Pairwise fun a b => a.stop ≠ b.start :=
      List.pairwise_map.mpr (untouched.imp fun different same => different (UInt64.toNat_inj.mp same))
    have back (z : Region) (mem : z ∈ zeros) : z.toSpan.toRegion = z := by
      have forward := (ordered.inside _ (List.mem_map_of_mem mem)).start_lt
      exact (sized z mem).toRegion_toSpan (UInt64.le_iff_toNat_le.mpr (Nat.le_of_lt forward))
    rw [complementRegions, spans, ordered.complement_complement apart, List.map_map]
    exact (List.map_congr_left back).trans (List.map_id _)

end ComputePlanner
