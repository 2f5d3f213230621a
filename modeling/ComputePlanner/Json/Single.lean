import ComputePlanner.Decimal.Scaled
import ComputePlanner.Decimal.Shortest
import ComputePlanner.Json.Decode

/-! # Numbers of 32 bits in JSON
A number is read by rounding what is written and written with the fewest digits that read back. It
always has a point or an exponent, so that it is not mistaken for an integer. An infinite number has
no written form and becomes `null`.

Main definitions: **`Json.single?`** and **`Json.ofSingle`**. -/

namespace ComputePlanner

namespace Json

/-- A written integer whose value, or that of its opposite, fits a signed or unsigned word of 64
bits; a negative zero is none. -/
def Number.integer64? (n : Number) : Option Nat :=
  match n.magnitude? with
  | some m =>
    if n.negative then (if 0 < m ∧ m ≤ UInt64.size / 2 then some m else none)
    else (if m < UInt64.size then some m else none)
  | none => none

/-- A number of 32 bits: integers of 64 bits are rounded once, all others by way of a double. A
number beyond the doubles is refused, one beyond the 32-bit numbers is infinite. -/
def single? : Json → Option Binary.Number
  | .number n =>
    match n.integer64? with
    | some m => some ⟨n.negative, Binary.Format.single.roundNat m⟩
    | none => do
      let s ← Scaled.ofNumber? n
      let m ← s.toDouble?
      return ⟨n.negative, m.convert .single⟩
  | _ => none

/-- The powers of ten of a first digit for which a number is written without an exponent. -/
def isPositional (exponent : Int) : Bool := -6 ≤ exponent && exponent ≤ 12

/-- Digits as a number: with all its zeros if it is positional, else with an exponent. -/
def Number.ofDigits (negative : Bool) (d : Digits) : Number :=
  if isPositional d.exponent then
    if 0 ≤ d.exponent then
      let count := d.exponent.toNat + 1
      let whole := d.digits.take count
      let fraction := d.digits.drop count
      { negative, whole := whole ++ List.replicate (count - whole.length) '0',
        fraction := if fraction.isEmpty then ['0'] else fraction }
    else
      { negative, whole := ['0'],
        fraction := List.replicate ((-d.exponent).toNat - 1) '0' ++ d.digits }
  else
    { negative, whole := d.digits.take 1, fraction := d.digits.drop 1,
      exponent := some ⟨d.exponent < 0, Nat.toDigits 10 d.exponent.natAbs⟩ }

/-- A number of 32 bits. -/
def ofSingle (n : Binary.Number) : Json :=
  match n.magnitude with
  | .infinite => .null
  | m =>
    if m.isZero then .number { negative := n.negative, whole := ['0'], fraction := ['0'] }
    else .number (Number.ofDigits n.negative (Binary.shortest .single m))

end Json

end ComputePlanner
