import ComputePlanner.Proofs.Plan.Memory
import Mathlib.Algebra.Order.Floor.Div

/-! # Rounding up to a boundary, and the reserved part
Offsets are rounded up to a boundary by adding all but one of its bytes and clearing the low bits. For a
power of two that clears exactly the remainder, so the outcome is the least multiple that is not below the
offset (**`toNat_alignUp`**), as long as a word holds the sum less one. A release build wraps the sum
itself around, which does no harm; one that checks it stops at a sum that is no word
(**`alignUpIn?_checked`**), which the reserved part never comes near. Its pieces are strung together in
this way: each begins at the next cache line behind the one before it, however many threads there are
(**`Reservation.Arranged`**).

Main statement: **`Reservation.alignment`**. -/

namespace ComputePlanner

/-! ## Rounding up -/

/-- Clearing the low bits of a word leaves the multiple of a power of two that is next below it. -/
theorem toNat_and_not_mask {x mask : UInt64} {k : Nat} (low : mask.toNat = 2 ^ k - 1) :
    (x &&& ~~~mask).toNat = x.toNat / 2 ^ k * 2 ^ k := by
  have inverted : UInt64.size - 1 - mask.toNat = 2 ^ 64 - (mask.toNat + 1) := by
    rw [UInt64.size]
    omega
  apply Nat.eq_of_testBit_eq
  intro i
  rw [UInt64.toNat_and, UInt64.toNat_not, inverted, Nat.testBit_and,
    Nat.testBit_two_pow_sub_succ mask.toNat_lt, low, Nat.testBit_two_pow_sub_one,
    Nat.testBit_mul_two_pow, Nat.testBit_div_two_pow]
  by_cases below : i < k
  · simp [below, Nat.not_le_of_lt below]
  · have above : k ≤ i := Nat.le_of_not_lt below
    by_cases inside : i < 64
    · simp [below, above, inside]
    · -- a word has no bits there
      have none : x.toNat.testBit i = false :=
        Nat.testBit_lt_two_pow (x.toNat_lt.trans_le (Nat.pow_le_pow_right (by decide)
          (Nat.le_of_not_lt inside)))
      simp [above, none]

/-- Rounding up is dividing, rounding up, and multiplying again. The sum may pass the last word on the way,
if taking one off brings it back. -/
theorem toNat_alignUp {value align : UInt64} (power : ∃ k, align.toNat = 2 ^ k)
    (fits : value.toNat + align.toNat - 1 < 2 ^ 64) :
    (alignUp value align).toNat = align.toNat * (value.toNat ⌈/⌉ align.toNat) := by
  obtain ⟨k, power⟩ := power
  have some : 0 < align.toNat := power ▸ Nat.two_pow_pos k
  have small := align.toNat_lt
  have one : (1 : UInt64).toNat = 1 := rfl
  have mask : (align - 1).toNat = 2 ^ k - 1 := by
    rw [UInt64.toNat_sub, one, ← power]
    omega
  have sum : (value + align - 1).toNat = value.toNat + align.toNat - 1 := by
    rw [UInt64.toNat_sub, UInt64.toNat_add, one]
    omega
  rw [alignUp, toNat_and_not_mask mask, sum, ← power, Nat.ceilDiv_eq_add_pred_div, Nat.mul_comm]

/-- **Rounding up gives the least multiple that is not below the offset.** -/
theorem isLeast_alignUp {value align : UInt64} (power : ∃ k, align.toNat = 2 ^ k)
    (fits : value.toNat + align.toNat - 1 < 2 ^ 64) :
    IsLeast {m | value.toNat ≤ m ∧ align.toNat ∣ m} (alignUp value align).toNat := by
  rw [toNat_alignUp power fits]
  obtain ⟨k, power⟩ := power
  have some : 0 < align.toNat := power ▸ Nat.two_pow_pos k
  refine ⟨⟨le_smul_ceilDiv some, Nat.dvd_mul_right ..⟩, ?_⟩
  rintro m ⟨after, c, rfl⟩
  exact Nat.mul_le_mul_left _ ((ceilDiv_le_iff_le_mul some).mpr after)

/-! ### In a build

The sum is not checked, so the build decides what becomes of one that is no word. -/

/-- A sum of words that is cut off to a word is their sum as words. -/
theorem ofNat_toNat_add (a b : UInt64) : UInt64.ofNat (a.toNat + b.toNat) = a + b := by simp

/-- A release build never stops at rounding up. -/
theorem alignUpIn?_release (value align : UInt64) :
    alignUpIn? .release value align = some (alignUp value align) := by
  show some ((UInt64.ofNat (value.toNat + align.toNat) - 1) &&& ~~~(align - 1)) = _
  rw [ofNat_toNat_add, alignUp]

/-- **A checked build rounds up in the same way**, unless the sum on the way is no word: it stops then,
even where taking one off would bring the sum back. -/
theorem alignUpIn?_checked {value align : UInt64} (power : ∃ k, align.toNat = 2 ^ k) :
    alignUpIn? .checked value align
      = if value.toNat + align.toNat < 2 ^ 64 then some (alignUp value align) else none := by
  obtain ⟨k, power⟩ := power
  have positive : 0 < align.toNat := power ▸ Nat.two_pow_pos k
  have one : (1 : UInt64).toNat = 1 := rfl
  by_cases fits : value.toNat + align.toNat < 2 ^ 64
  · have last : (1 : UInt64) ≤ value + align := by
      rw [UInt64.le_iff_toNat_le, UInt64.toNat_add, one]
      omega
    have low : (1 : UInt64) ≤ align := by
      rw [UInt64.le_iff_toNat_le, one]
      omega
    rw [if_pos fits, alignUpIn?, Build.sum?_of_lt fits, ofNat_toNat_add]
    simp [Build.difference?, last, low, alignUp]
  · rw [if_neg fits, alignUpIn?, Build.checked_sum?_of_le (Nat.le_of_not_lt fits)]
    rfl

/-- No build stops on the way to the next cache line. -/
theorem alignUpIn?_cacheLine (build : Build) {offset : Nat} (small : offset < 2 ^ 63) :
    alignUpIn? build (UInt64.ofNat offset) (UInt64.ofNat cacheLine)
      = some (UInt64.ofNat (nextCacheLine offset)) := by
  have value : (UInt64.ofNat offset).toNat = offset :=
    UInt64.toNat_ofNat_of_lt' (show offset < 2 ^ 64 by omega)
  have align : (UInt64.ofNat cacheLine).toNat = 128 := rfl
  rw [nextCacheLine, UInt64.ofNat_toNat]
  cases build with
  | checked =>
    rw [alignUpIn?_checked ⟨7, rfl⟩, if_pos (by rw [value, align]; omega)]
  | release => exact alignUpIn?_release ..

/-! ### Cache lines -/

/-- The next cache line begins at the offset or less than a cache line behind it. -/
theorem nextCacheLine_bounds (offset : Nat) (small : offset < 2 ^ 63) :
    offset ≤ nextCacheLine offset ∧ nextCacheLine offset < offset + cacheLine ∧
      cacheLine ∣ nextCacheLine offset := by
  have value : (UInt64.ofNat offset).toNat = offset :=
    UInt64.toNat_ofNat_of_lt' (show offset < 2 ^ 64 by omega)
  have align : (UInt64.ofNat cacheLine).toNat = cacheLine := rfl
  have rounded : nextCacheLine offset = cacheLine * (offset ⌈/⌉ cacheLine) := by
    rw [nextCacheLine, toNat_alignUp ⟨7, rfl⟩ (by rw [value, align, cacheLine]; omega), value, align]
  rw [rounded, Nat.ceilDiv_eq_add_pred_div, cacheLine]
  exact ⟨by omega, by omega, Nat.dvd_mul_right ..⟩

/-! ## The reserved part -/

namespace Reservation

/-- The addresses of the descriptor ring. -/
def ringSpan (r : Reservation) : Set Nat := Set.Ico r.ringOffset (r.ringOffset + r.ringSize)

/-- How the pieces of a reserved part lie for cores that run `threads` threads. -/
structure Arranged (r : Reservation) (threads : UInt32) : Prop where
  /-- The dummy descriptor begins behind the doorbell window, and the ring behind the dummy. -/
  windowFirst : r.doorbellWindow ≤ r.dummyOffset
  ringLast : r.dummyOffset + transferDescriptorSize ≤ r.ringOffset
  /-- So no two of them overlap. -/
  windowDummy : Disjoint r.windowSpan r.dummySpan
  windowRing : Disjoint r.windowSpan r.ringSpan
  dummyRing : Disjoint r.dummySpan r.ringSpan
  /-- The dummy descriptor and the ring begin on cache lines. -/
  dummyAligned : 128 ∣ r.dummyOffset
  ringAligned : 128 ∣ r.ringOffset
  /-- The ring has two cache lines for each thread, and a word holds how many bytes these are. -/
  ring : (threads.toUInt64 * 128 * 2).toNat = r.ringSize
  /-- The reserved part ends where the ring does, and a word holds that, too. -/
  stop_eq : r.stop = r.ringOffset + r.ringSize
  fits : (UInt64.ofNat r.ringOffset + threads.toUInt64 * 128 * 2).toNat = r.stop

/-- A word of 64 bits holds the bytes of the ring for any number of threads. -/
theorem toNat_ringSize (threads : UInt32) :
    (threads.toUInt64 * 128 * 2).toNat = ComputePlanner.ringSize threads.toNat := by
  have few := threads.toNat_lt
  rw [ComputePlanner.ringSize, cacheLine, cacheLinesPerThread, UInt64.toNat_mul, UInt64.toNat_mul,
    UInt32.toNat_toUInt64]
  simp only [UInt64.reduceToNat]
  omega

/-- The pieces of the reserved part are in order, on cache lines, and no word is too small for them. -/
theorem arranged_ofThreads (threads : UInt32) : (ofThreads threads.toNat).Arranged threads := by
  have few := threads.toNat_lt
  have bytes : ComputePlanner.ringSize threads.toNat = threads.toNat * 128 * 2 := rfl
  have window : ComputePlanner.doorbellWindow = 1124 := rfl
  have descriptor : transferDescriptorSize = 16 := rfl
  have line : cacheLine = 128 := rfl
  rw [ofThreads]
  obtain ⟨dummy, dummyNear, dummyAligned⟩ :=
    nextCacheLine_bounds ComputePlanner.doorbellWindow (by decide)
  generalize nextCacheLine ComputePlanner.doorbellWindow = dummyOffset at *
  obtain ⟨ring, ringNear, ringAligned⟩ :=
    nextCacheLine_bounds (dummyOffset + transferDescriptorSize) (by omega)
  generalize nextCacheLine (dummyOffset + transferDescriptorSize) = ringOffset at *
  have start : (UInt64.ofNat ringOffset).toNat = ringOffset :=
    UInt64.toNat_ofNat_of_lt' (show ringOffset < 2 ^ 64 by omega)
  have apart {a b c d : Nat} (before : b ≤ c) : Disjoint (Set.Ico a b) (Set.Ico c d) :=
    Set.Ico_disjoint_Ico.mpr (by omega)
  exact
    { windowFirst := dummy
      ringLast := ring
      windowDummy := apart dummy
      windowRing := apart (by dsimp only; omega)
      dummyRing := apart ring
      dummyAligned
      ringAligned
      ring := toNat_ringSize threads
      stop_eq := rfl
      fits := by
        rw [stop, UInt64.toNat_add, toNat_ringSize]
        dsimp only
        rw [start]
        omega }

/-- **Rounding up to a boundary gives the least multiple that is not below**, and so the pieces of the
reserved part are in order and on cache lines for any number of threads. -/
theorem alignment :
    (∀ value align : UInt64, (∃ k, align.toNat = 2 ^ k) →
      value.toNat + align.toNat - 1 < 2 ^ 64 →
        IsLeast {m | value.toNat ≤ m ∧ align.toNat ∣ m} (alignUp value align).toNat) ∧
    ∀ threads : UInt32, (ofThreads threads.toNat).Arranged threads :=
  ⟨fun _ _ => isLeast_alignUp, arranged_ofThreads⟩

/-- In the last cache lines that a word reaches, and with as many threads as one can ask for. -/
theorem alignment_last :
    (∃ k, (128 : UInt64).toNat = 2 ^ k) ∧
      (0xFFFFFFFFFFFFFF01 : UInt64).toNat + (128 : UInt64).toNat - 1 < 2 ^ 64 ∧
      IsLeast {m | 0xFFFFFFFFFFFFFF01 ≤ m ∧ 128 ∣ m} 0xFFFFFFFFFFFFFF80 ∧
      (ofThreads 0xFFFFFFFF).Arranged 0xFFFFFFFF := by
  have power : ∃ k, (128 : UInt64).toNat = 2 ^ k := ⟨7, rfl⟩
  have fits : (0xFFFFFFFFFFFFFF01 : UInt64).toNat + (128 : UInt64).toNat - 1 < 2 ^ 64 := by decide
  exact ⟨power, fits, alignment.1 0xFFFFFFFFFFFFFF01 128 power fits, alignment.2 0xFFFFFFFF⟩

end Reservation

end ComputePlanner
