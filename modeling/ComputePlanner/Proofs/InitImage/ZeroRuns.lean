import ComputePlanner.InitImage
import Mathlib.Data.List.Basic

/-! # Zero runs of an image
The scanner goes through an image once and carries how many zeros it has just seen. What it lists are
the **maximal** zero runs that are long: each is as wide as its zeros go on, and every long run of
zeros, wherever it is cut out of the image, lies in one of them.

Main statement: **`zeroSpans_zeroRuns`**. -/

namespace ComputePlanner

namespace Span

/-- An offset lies in a span. -/
def Covers (s : Span) (i : Nat) : Prop := s.start ≤ i ∧ i < s.stop

/-- A span holds something and ends inside an image of `length` bytes. -/
structure Inside (s : Span) (length : Nat) : Prop where
  start_lt : s.start < s.stop
  stop_le : s.stop ≤ length

/-- The bytes of an image under a span are zero. -/
def Zero (s : Span) (image : Bytes) : Prop := ∀ i, s.Covers i → image[i]? = some 0

/-- Nothing lies under an empty span. -/
theorem zero_of_le {s : Span} (empty : s.stop ≤ s.start) (image : Bytes) : s.Zero image := by
  rintro i ⟨after, before⟩
  omega

/-- A span of zeros is in the image. -/
theorem Zero.stop_le {s : Span} {image : Bytes} (zero : s.Zero image) (some : s.start < s.stop) :
    s.stop ≤ image.length := by
  have last := zero (s.stop - 1) ⟨by omega, by omega⟩
  obtain ⟨inside, -⟩ := List.getElem?_eq_some_iff.mp last
  omega

/-- A span of zeros is on one side of a byte that is not zero. -/
theorem Zero.apart {s : Span} {image : Bytes} (zero : s.Zero image) {p : Nat}
    (other : image[p]? ≠ some 0) : s.stop ≤ p ∨ p + 1 ≤ s.start := by
  by_contra across
  exact other (zero p ⟨by omega, by omega⟩)

end Span

variable {image : Bytes} {start run : Nat}

/-- A long run of zeros that goes on neither in front nor behind. -/
structure MaximalRun (image : Bytes) (z : Span) : Prop where
  zero : z.Zero image
  long : z.start + keptZeroRun < z.stop
  front : ∀ i, i + 1 = z.start → image[i]? ≠ some 0
  behind : image[z.stop]? ≠ some 0

/-- A maximal run is in the image. -/
theorem MaximalRun.inside {z : Span} (run : MaximalRun image z) : z.Inside image.length := by
  have some : z.start < z.stop := Nat.lt_of_le_of_lt (Nat.le_add_right ..) run.long
  exact ⟨some, run.zero.stop_le some⟩

/-- The long zero runs of an image from `start` on. -/
structure ZeroRuns (image : Bytes) (start : Nat) (zeros : List Span) : Prop where
  maximal : ∀ z ∈ zeros, MaximalRun image z
  start_le : ∀ z ∈ zeros, start ≤ z.start
  sorted : zeros.Pairwise fun a b => a.stop < b.start
  /-- No long run is left out. -/
  complete : ∀ s : Span, start ≤ s.start → s.start + keptZeroRun < s.stop → s.Zero image →
    ∃ z ∈ zeros, z.start ≤ s.start ∧ s.stop ≤ z.stop

/-- What the scanner has just seen: zeros, but not in front of them. -/
structure OpenRun (image : Bytes) (start run : Nat) : Prop where
  zero : Span.Zero ⟨start, start + run⟩ image
  front : ∀ i, i + 1 = start → image[i]? ≠ some 0

namespace ZeroRuns

/-- Behind the image there is nothing. -/
theorem nil (ended : image.length ≤ start) : ZeroRuns image start [] where
  maximal := nofun
  start_le := nofun
  sorted := .nil
  complete s after long zero := by
    have inside := zero.stop_le (by omega)
    omega

/-- A short run is passed over. -/
theorem skip (ends : image[start + run]? ≠ some 0) (short : run ≤ keptZeroRun) {zeros : List Span}
    (rest : ZeroRuns image (start + run + 1) zeros) : ZeroRuns image start zeros where
  maximal := rest.maximal
  start_le z mem := by
    have := rest.start_le z mem
    omega
  sorted := rest.sorted
  complete s after long zero := by
    rcases zero.apart ends with inside | behind
    · omega
    · exact rest.complete s behind long zero

/-- A long run is listed. -/
theorem cons (seen : OpenRun image start run) (ends : image[start + run]? ≠ some 0)
    (long : keptZeroRun < run) {zeros : List Span}
    (rest : ZeroRuns image (start + run + 1) zeros) :
    ZeroRuns image start (⟨start, start + run⟩ :: zeros) where
  maximal := by
    refine List.forall_mem_cons.mpr ⟨⟨seen.zero, ?_, seen.front, ends⟩, rest.maximal⟩
    dsimp only
    omega
  start_le := by
    refine List.forall_mem_cons.mpr ⟨Nat.le_refl start, fun z mem => ?_⟩
    have := rest.start_le z mem
    omega
  sorted := List.pairwise_cons.mpr ⟨rest.start_le, rest.sorted⟩
  complete s after long zero := by
    rcases zero.apart ends with inside | behind
    · exact ⟨_, List.mem_cons_self, after, inside⟩
    · obtain ⟨z, mem, inside⟩ := rest.complete s behind long zero
      exact ⟨z, List.mem_cons_of_mem _ mem, inside⟩

end ZeroRuns

/-- The scanner lists the long zero runs from the run that it is in. -/
theorem zeroSpansFrom_zeroRuns {bs : Bytes} (rest : image.drop (start + run) = bs)
    (seen : OpenRun image start run) :
    ZeroRuns image start (zeroSpansFrom (start + run) run bs) := by
  induction bs generalizing start run with
  | nil =>
    have ended : image.length ≤ start + run := List.drop_eq_nil_iff.mp rest
    have ends : image[start + run]? ≠ some 0 := by
      rw [List.getElem?_eq_none ended]
      nofun
    have nothing : ZeroRuns image (start + run + 1) [] := .nil (Nat.le_succ_of_le ended)
    rw [zeroSpansFrom, Nat.add_sub_cancel]
    by_cases long : keptZeroRun < run
    · rw [if_pos long]
      exact .cons seen ends long nothing
    · rw [if_neg long]
      exact .skip ends (Nat.le_of_not_lt long) nothing
  | cons b bs ih =>
    have here : image[start + run]? = some b := by
      rw [← List.head?_drop, rest, List.head?_cons]
    have later : image.drop (start + run + 1) = bs := by
      rw [← List.drop_drop, rest, List.drop_one, List.tail_cons]
    rw [zeroSpansFrom, Nat.add_sub_cancel]
    by_cases zero : b = 0
    · -- the run goes on
      rw [if_pos zero]
      have longer : OpenRun image start (run + 1) := by
        refine ⟨fun i covers => ?_, seen.front⟩
        have before : i < start + run + 1 := covers.2
        rcases Nat.lt_succ_iff_lt_or_eq.mp before with before | last
        · exact seen.zero i ⟨covers.1, before⟩
        · rw [last, here, zero]
      exact ih (show image.drop (start + (run + 1)) = bs from later) longer
    · -- the run ends, and the scanner follows no zero behind the byte
      rw [if_neg zero]
      have ends : image[start + run]? ≠ some 0 := by
        rw [here, Ne, Option.some.injEq]
        exact zero
      have none : OpenRun image (start + run + 1) 0 := by
        refine ⟨Span.zero_of_le (Nat.le_refl _) image, fun i same => ?_⟩
        cases same
        exact ends
      have next : ZeroRuns image (start + run + 1) (zeroSpansFrom (start + run + 1) 0 bs) :=
        ih (show image.drop (start + run + 1 + 0) = bs from later) none
      by_cases long : keptZeroRun < run
      · rw [if_pos long]
        exact .cons seen ends long next
      · rw [if_neg long]
        exact .skip ends (Nat.le_of_not_lt long) next

/-- **The scanner finds the long zero runs of an image.** -/
theorem zeroSpans_zeroRuns (image : Bytes) : ZeroRuns image 0 (zeroSpans image) := by
  have none : OpenRun image 0 0 := ⟨Span.zero_of_le (Nat.le_refl 0) image, fun i same => by cases same⟩
  exact zeroSpansFrom_zeroRuns rfl none

end ComputePlanner
