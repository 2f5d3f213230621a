/-! # Fitting numbers into words
Counts and sizes are naturals while they are computed and words once they are stored. Storing either
**clamps** a number that is too large or **refuses** it; which one is part of each format.

A sum of words that is not checked is another matter. Where it is no word, a program stops or goes on
with the low bits, and that depends on how it was **built** (`Build`). -/

namespace ComputePlanner

/-- The 32-bit word nearest to a number. -/
def clamp32 (n : Nat) : UInt32 := UInt32.ofNat (min n 0xFFFFFFFF)

/-- A number as a 16-bit word, if it is one. -/
def fit16? (n : Nat) : Option UInt16 := if n < UInt16.size then some (UInt16.ofNat n) else none

/-- A number as a 32-bit word, if it is one. -/
def fit32? (n : Nat) : Option UInt32 := if n < UInt32.size then some (UInt32.ofNat n) else none

/-- A number as a 64-bit word, if it is one. -/
def fit64? (n : Nat) : Option UInt64 := if n < UInt64.size then some (UInt64.ofNat n) else none

/-- How a program is built. -/
inductive Build
  /-- A sum or difference that is no word stops the program. -/
  | checked
  /-- It is cut off to a word. -/
  | release
  deriving DecidableEq, Repr

namespace Build

/-- The word that an exact sum comes to, if the program goes on. -/
def sum? : Build → Nat → Option UInt64
  | checked, n => fit64? n
  | release, n => some (UInt64.ofNat n)

/-- The word that a difference comes to, if the program goes on. -/
def difference? : Build → UInt64 → UInt64 → Option UInt64
  | checked, a, b => if b ≤ a then some (a - b) else none
  | release, a, b => some (a - b)

end Build

/-! ## What is kept -/

theorem toNat_clamp32 (n : Nat) : (clamp32 n).toNat = min n 0xFFFFFFFF := by
  simp only [clamp32, UInt32.toNat_ofNat']
  omega

theorem fit16?_of_lt {n : Nat} (fits : n < UInt16.size) : fit16? n = some (UInt16.ofNat n) :=
  if_pos fits

theorem fit32?_of_lt {n : Nat} (fits : n < UInt32.size) : fit32? n = some (UInt32.ofNat n) :=
  if_pos fits

theorem fit16?_of_le {n : Nat} (large : UInt16.size ≤ n) : fit16? n = none :=
  if_neg (Nat.not_lt_of_le large)

theorem fit32?_of_le {n : Nat} (large : UInt32.size ≤ n) : fit32? n = none :=
  if_neg (Nat.not_lt_of_le large)

theorem toNat_of_fit32? {n : Nat} {w : UInt32} (h : fit32? n = some w) : w.toNat = n := by
  unfold fit32? at h
  split at h
  case isTrue fits => cases h; exact UInt32.toNat_ofNat_of_lt' fits
  case isFalse => cases h

/-- A sum that is a word is that word in every build. -/
theorem Build.sum?_of_lt {n : Nat} (fits : n < UInt64.size) (build : Build) :
    build.sum? n = some (UInt64.ofNat n) := by
  cases build with
  | checked => exact if_pos fits
  | release => rfl

/-- A checked build stops at any other. -/
theorem Build.checked_sum?_of_le {n : Nat} (large : UInt64.size ≤ n) : checked.sum? n = none :=
  if_neg (Nat.not_lt_of_le large)

end ComputePlanner
