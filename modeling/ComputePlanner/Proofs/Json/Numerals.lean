import ComputePlanner.Json.Decode
import ComputePlanner.Json.Token
import Mathlib.Tactic.IntervalCases

/-! # Numbers and their digits
A number is kept by its digits. **`Number.WellFormed`** says which digits a number of the grammar has:
at least one in front of the point, no zero in front of another, and at least one in an exponent. The
digits of a natural number are of this form and stand for it, so words and signed numbers are read as what
was written: **`word32?_ofNat`**, **`word64?_ofNat`** and **`int32?_ofInt`**. -/

namespace ComputePlanner

namespace Json

/-- A number that the grammar allows. -/
structure Number.WellFormed (n : Number) : Prop where
  whole : isWhole n.whole = true
  wholeDigits : ∀ c ∈ n.whole, c.isDigit = true
  fractionDigits : ∀ c ∈ n.fraction, c.isDigit = true
  exponentDigits : ∀ e ∈ n.exponent, e.digits ≠ [] ∧ ∀ c ∈ e.digits, c.isDigit = true

/-! ## The digits of a natural number -/

/-- Only zero begins with a zero. -/
theorem head?_toDigits_ne_zero {n : Nat} (pos : 0 < n) : (Nat.toDigits 10 n).head? ≠ some '0' := by
  induction n using Nat.strongRecOn with
  | _ n ih =>
    rw [Nat.toDigits_eq_if (by decide)]
    by_cases single : n < 10
    · rw [if_pos single]
      interval_cases n <;> decide
    · -- the digits of the tenth part stand in front
      have front := ih (n / 10) (by omega) (by omega)
      obtain ⟨c, digits, tenth⟩ :=
        List.exists_cons_of_ne_nil (Nat.toDigits_ne_nil : Nat.toDigits 10 (n / 10) ≠ [])
      rw [tenth] at front
      rw [if_neg single, tenth]
      exact front

/-- The digits of a natural number can stand in front of the point. -/
theorem isWhole_toDigits (n : Nat) : isWhole (Nat.toDigits 10 n) = true := by
  rcases Nat.eq_zero_or_pos n with rfl | pos
  · rfl
  · have head := head?_toDigits_ne_zero pos
    have nonempty : Nat.toDigits 10 n ≠ [] := Nat.toDigits_ne_nil
    generalize Nat.toDigits 10 n = digits at head nonempty
    match digits with
    | [] => exact absurd rfl nonempty
    | [_] => rfl
    | c :: _ :: _ => simpa [isWhole] using head

/-- They stand for the number. -/
theorem digitsValue_toDigits (n : Nat) : digitsValue (Nat.toDigits 10 n) = n := by
  have step : (fun (m : Nat) (c : Char) => m * 10 + (c.toNat - 48))
      = fun m c => 10 * m + (c.toNat - '0'.toNat) := by
    funext m c
    rw [Nat.mul_comm]
    rfl
  rw [digitsValue, step]
  exact Nat.ofDigitChars_toDigits (by decide) (by decide)

/-- A natural number with a sign is written as the grammar has it. -/
theorem wellFormed_toDigits (negative : Bool) (n : Nat) :
    Number.WellFormed { negative, whole := Nat.toDigits 10 n } where
  whole := isWhole_toDigits n
  wholeDigits _ mem := Nat.isDigit_of_mem_toDigits (by decide) (by decide) mem
  fractionDigits _ := nofun
  exponentDigits _ := nofun

/-- Readers accept it as an integer if it has at most twenty digits. -/
theorem magnitude?_toDigits (negative : Bool) {n : Nat} (small : n < 10 ^ 20) :
    Number.magnitude? { negative, whole := Nat.toDigits 10 n } = some n := by
  have few : (Nat.toDigits 10 n).length ≤ Number.maxDigits :=
    (Nat.length_toDigits_le_iff (by decide) (by decide)).mpr small
  simp [Number.magnitude?, few, digitsValue_toDigits]

/-! ## Words and signed numbers -/

/-- A word of 32 bits is read as it was written. -/
theorem word32?_ofNat (v : UInt32) : word32? (ofNat v.toNat) = some v := by
  have small := v.toNat_lt
  have read : nat? (ofNat v.toNat) = some v.toNat := magnitude?_toDigits false (by omega)
  rw [word32?, read, Option.bind_some, fit32?_of_lt small, UInt32.ofNat_toNat]

/-- A word of 64 bits is read as it was written. -/
theorem word64?_ofNat (v : UInt64) : word64? (ofNat v.toNat) = some v := by
  have small := v.toNat_lt
  have read : nat? (ofNat v.toNat) = some v.toNat := magnitude?_toDigits false (by omega)
  rw [word64?, read, Option.bind_some, fit64?, if_pos small, UInt64.ofNat_toNat]

/-- A whole number is read as it was written: zero has no sign. -/
theorem int?_toDigits {v : Int} (small : v.natAbs < 10 ^ 20) :
    Number.int? { negative := v < 0, whole := Nat.toDigits 10 v.natAbs } = some v := by
  rw [Number.int?, magnitude?_toDigits _ small]
  dsimp only
  by_cases negative : v < 0
  · have nonzero : v.natAbs ≠ 0 := by omega
    simp only [negative, decide_true, if_true, if_neg nonzero, Option.some.injEq]
    omega
  · simp only [negative, decide_false, Bool.false_eq_true, if_false, Option.some.injEq]
    omega

/-- A signed number of 32 bits is read as it was written. -/
theorem int32?_ofInt (v : Int32) : int32? (ofInt v.toInt) = some v := by
  have low := v.le_toInt
  have high := v.toInt_lt
  have range : Int32.minValue.toInt ≤ v.toInt ∧ v.toInt ≤ Int32.maxValue.toInt :=
    ⟨v.minValue_le_toInt, v.toInt_le⟩
  have read : Number.int? { negative := v.toInt < 0, whole := Nat.toDigits 10 v.toInt.natAbs }
      = some v.toInt := int?_toDigits (by omega)
  simp only [int32?, ofInt, read, Option.bind_eq_bind, Option.bind_some, if_pos range,
    Int32.ofInt_toInt]

end Json

end ComputePlanner
