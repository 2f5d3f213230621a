/-! # Binary floating point
A **format** of binary floating point has numbers `significand · 2 ^ exponent` with a significand
below `2 ^ precision` and an exponent within a range. **`Format.roundRatio`** takes a quotient of
naturals to the nearest number of a format, a tie to the even significand; what lies beyond the
largest number becomes infinite.

The arithmetic is exact: a value is a quotient of naturals until it is rounded.

Main definitions: **`Format`** with **`Format.single`** and **`Format.double`**, **`Magnitude`**,
**`divideToEven`** and **`Format.roundRatio`**. -/

namespace ComputePlanner

namespace Binary

/-- A floating-point format. -/
structure Format where
  /-- Bits of a significand. -/
  precision : Nat
  /-- The least exponent. -/
  least : Int
  /-- The greatest exponent. -/
  greatest : Int
  deriving DecidableEq, Repr

/-- Numbers of 32 bits. -/
def Format.single : Format := ⟨24, -149, 104⟩

/-- Numbers of 64 bits. -/
def Format.double : Format := ⟨53, -1074, 971⟩

/-- A number without its sign. -/
inductive Magnitude
  /-- `significand · 2 ^ exponent`; the significand has all its bits or the exponent is the
  least. -/
  | finite (significand : Nat) (exponent : Int)
  | infinite
  deriving DecidableEq, Repr

/-- A number with its sign; zero has one, too. -/
structure Number where
  negative : Bool
  magnitude : Magnitude
  deriving DecidableEq, Repr

/-- The integer nearest to `num / den`, a tie to the even one. -/
def divideToEven (num den : Nat) : Nat :=
  let q := num / den
  let r := num % den
  if 2 * r < den then q
  else if den < 2 * r then q + 1
  else if q % 2 = 0 then q else q + 1

/-- Whether `2 ^ e ≤ num / den`. -/
def powerAtMost (e : Int) (num den : Nat) : Bool :=
  den * Nat.pow 2 e.toNat ≤ num * Nat.pow 2 (-e).toNat

/-- The greatest `e` with `2 ^ e ≤ num / den`, for positive `num` and `den`. -/
def floorLog2 (num den : Nat) : Int :=
  let e := (Nat.log2 num : Int) - Nat.log2 den
  if powerAtMost e num den then e else e - 1

namespace Format

/-- A significand whose bits may have become one too many, at its exponent. -/
def normalize (f : Format) (significand : Nat) (exponent : Int) : Magnitude :=
  if significand < Nat.pow 2 f.precision then
    if exponent ≤ f.greatest then .finite significand exponent else .infinite
  else if exponent + 1 ≤ f.greatest then .finite (significand / 2) (exponent + 1)
  else .infinite

/-- The number nearest to `num / den`, for a positive `den`. -/
def roundRatio (f : Format) (num den : Nat) : Magnitude :=
  if num = 0 then .finite 0 f.least
  else
    let exponent := max f.least (floorLog2 num den - (f.precision - 1))
    f.normalize (divideToEven (num * Nat.pow 2 (-exponent).toNat) (den * Nat.pow 2 exponent.toNat)) exponent

/-- The number nearest to a natural one. -/
def roundNat (f : Format) (n : Nat) : Magnitude := f.roundRatio n 1

end Format

namespace Magnitude

/-- Whether this is zero. -/
def isZero : Magnitude → Bool
  | finite significand _ => significand = 0
  | infinite => false

/-- The numerator of a finite number. -/
def num : Magnitude → Nat
  | finite significand exponent => significand * Nat.pow 2 exponent.toNat
  | infinite => 0

/-- The denominator of a finite number. -/
def den : Magnitude → Nat
  | finite _ exponent => Nat.pow 2 (-exponent).toNat
  | infinite => 1

/-- The number of a format that is nearest to this one. -/
def convert (f : Format) : Magnitude → Magnitude
  | .infinite => .infinite
  | m => f.roundRatio m.num m.den

/-- The product, rounded once. -/
def mul (f : Format) : Magnitude → Magnitude → Magnitude
  | .infinite, _ | _, .infinite => .infinite
  | a, b => f.roundRatio (a.num * b.num) (a.den * b.den)

/-- The quotient by a finite positive number, rounded once. -/
def div (f : Format) : Magnitude → Magnitude → Magnitude
  | .infinite, _ => .infinite
  | a, b => f.roundRatio (a.num * b.den) (a.den * b.num)

end Magnitude

end Binary

end ComputePlanner
