import ComputePlanner.Binary.Rounding
import ComputePlanner.Json.Basic

/-! # Decimal numbers to binary ones
A decimal number is read in two steps. Its digits become a **significand** of 64 bits and a power of
ten: digits that no longer fit are dropped, those in front of the point raising the power. Then the
significand is rounded to a double and multiplied or divided by the power of ten, which is rounded
as well, so the result can be off the nearest double in its last bit.

Main definitions: **`Scaled.ofNumber?`** and **`Scaled.toDouble?`**. -/

namespace ComputePlanner

/-- A 64-bit significand times a power of ten. -/
structure Scaled where
  significand : Nat
  exponent : Int
  deriving DecidableEq, Repr

namespace Scaled

/-- The largest significand. -/
def maxSignificand : Nat := UInt64.size - 1

/-- The value of a decimal digit. -/
def digit (c : Char) : Nat := c.toNat - 48

/-- Takes digits in front of the point while they fit; each of the others raises the exponent. -/
def takeWhole (s : Scaled) : List Char → Scaled
  | [] => s
  | c :: digits =>
    let next := s.significand * 10 + digit c
    if next ≤ maxSignificand then takeWhole ⟨next, s.exponent⟩ digits
    else ⟨s.significand, s.exponent + (digits.length + 1)⟩

/-- Takes digits behind the point up to the first that does not fit; each lowers the exponent. -/
def takeFraction (s : Scaled) : List Char → Scaled
  | [] => s
  | c :: digits =>
    let next := s.significand * 10 + digit c
    if next ≤ maxSignificand then takeFraction ⟨next, s.exponent - 1⟩ digits else s

/-- The largest written exponent that is taken for what it is. -/
def maxExponent : Nat := UInt32.size / 2 - 1

/-- The number that the digits of an exponent stand for, if it is at most `maxExponent`. -/
def exponentValue? (value : Nat) : List Char → Option Nat
  | [] => some value
  | c :: digits =>
    let next := value * 10 + digit c
    if next ≤ maxExponent then exponentValue? next digits else none

/-- Applies a written exponent. One that is too large makes zero of everything if it is negative and
leaves only zero if it is not. -/
def applyExponent? (s : Scaled) (e : Json.Exponent) : Option Scaled :=
  match exponentValue? 0 e.digits with
  | some value =>
    some ⟨s.significand, if e.negative then s.exponent - value else s.exponent + value⟩
  | none => if e.negative || s.significand = 0 then some ⟨0, 0⟩ else none

/-- A written number as a significand and a power of ten, without its sign. -/
def ofNumber? (n : Json.Number) : Option Scaled :=
  let s := takeFraction (takeWhole ⟨0, 0⟩ n.whole) n.fraction
  match n.exponent with
  | some e => applyExponent? s e
  | none => some s

/-- The greatest power of ten that is a double. -/
def maxPower : Nat := 308

/-- A power of ten, as a double. -/
def power (exponent : Nat) : Binary.Magnitude := Binary.Format.double.roundNat (Nat.pow 10 exponent)

/-- A double times a power of ten, if it is a double; small powers are divided off in steps, at most
`fuel` of them. -/
def scale? (m : Binary.Magnitude) (exponent : Int) : (fuel : Nat) → Option Binary.Magnitude
  | 0 => some m
  | fuel + 1 =>
    if exponent.natAbs ≤ maxPower then
      if 0 ≤ exponent then
        match m.mul .double (power exponent.natAbs) with
        | .infinite => none
        | product => some product
      else some (m.div .double (power exponent.natAbs))
    else if m.isZero then some m
    else if 0 ≤ exponent then none
    else scale? (m.div .double (power maxPower)) (exponent + maxPower) fuel

/-- Steps after which the smallest double has been divided down to zero. -/
def scaleSteps : Nat := 4

/-- The double for a significand and a power of ten, if there is one. -/
def toDouble? (s : Scaled) : Option Binary.Magnitude :=
  scale? (Binary.Format.double.roundNat s.significand) s.exponent scaleSteps

end Scaled

end ComputePlanner
