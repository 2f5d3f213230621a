import ComputePlanner.Binary.Rounding

/-! # The shortest decimal form of a binary number
A binary number is written with the fewest digits that still read back as the same number, and with
the nearest of those. For each number of digits only the two decimal numbers next to the value can
do, so they are tried with one digit, with two, and so on.

Main definitions: **`Binary.readsBack`** and **`Binary.shortest`**. -/

namespace ComputePlanner

/-- Decimal digits with a point behind the first, times a power of ten. -/
structure Digits where
  /-- The digits; the first is no zero. -/
  digits : List Char
  /-- The power of ten of the first digit. -/
  exponent : Int
  deriving DecidableEq, Repr

namespace Binary

/-- The greatest `e` with `10 ^ e ≤ num / den`, for positive `num` and `den`. -/
def floorLog10 (num den : Nat) : Int :=
  if den ≤ num then (Nat.toDigits 10 (num / den)).length - 1
  else -(Nat.toDigits 10 ((den - 1) / num)).length

/-- Whether `m` is the number of the format that is nearest to `n · 10 ^ e`. -/
def readsBack (f : Format) (m : Magnitude) (n : Nat) (e : Int) : Bool :=
  f.roundRatio (n * Nat.pow 10 e.toNat) (Nat.pow 10 (-e).toNat) = m

/-- The multiple of `10 ^ e` that is nearest to a number among those that read back as it. -/
def nearestMultiple? (f : Format) (m : Magnitude) (e : Int) : Option Nat :=
  let num := m.num * Nat.pow 10 (-e).toNat
  let den := m.den * Nat.pow 10 e.toNat
  let below := num / den
  let nearest := divideToEven num den
  let other := if nearest = below then below + 1 else below
  [nearest, other].find? (readsBack f m · e)

/-- A natural number times `10 ^ e` as digits; trailing zeros are left out. -/
def toDigits (n : Nat) (e : Int) : Digits :=
  let digits := Nat.toDigits 10 n
  ⟨(digits.reverse.dropWhile (· = '0')).reverse, e + digits.length - 1⟩

/-- Digits that always suffice, for formats of up to 64 bits. -/
def maxDigits : Nat := 17

/-- The shortest digits that read back as a number, which is neither zero nor infinite. -/
def shortest (f : Format) (m : Magnitude) : Digits :=
  let top := floorLog10 m.num m.den
  ((List.range maxDigits).findSome? fun (extra : Nat) =>
    (nearestMultiple? f m (top - extra)).map (toDigits · (top - extra))).getD ⟨['0'], 0⟩

end Binary

end ComputePlanner
