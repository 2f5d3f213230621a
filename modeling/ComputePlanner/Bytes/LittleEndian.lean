/-! # Little-endian words
Every artifact stores its integers least significant byte first and in a fixed width. A number is
written by `littleEndian`, read back by `ofLittleEndian`, and the fixed-width words of the formats
are these two at widths 2, 4 and 8.

Main definitions:
* **`Bytes`** — the contents of a file or of a part of one;
* **`littleEndian`** and **`ofLittleEndian`** — the two directions, over all naturals;
* **`word16`**, **`word32`**, **`word64`** — the words themselves. -/

namespace ComputePlanner

/-- The contents of a file, or of a part of one. -/
abbrev Bytes := List UInt8

/-- The `width` low bytes of `n`, least significant first. -/
def littleEndian : Nat → Nat → Bytes
  | 0, _ => []
  | width + 1, n => UInt8.ofNat n :: littleEndian width (n / 256)

/-- The number whose bytes, least significant first, are given. -/
def ofLittleEndian : Bytes → Nat
  | [] => 0
  | b :: bs => b.toNat + 256 * ofLittleEndian bs

/-- A 16-bit word as two bytes. -/
def word16 (v : UInt16) : Bytes := littleEndian 2 v.toNat

/-- A 32-bit word as four bytes. -/
def word32 (v : UInt32) : Bytes := littleEndian 4 v.toNat

/-- A 64-bit word as eight bytes. -/
def word64 (v : UInt64) : Bytes := littleEndian 8 v.toNat

/-- One byte holding a flag: 1 for set, 0 for clear. -/
def flagByte (b : Bool) : UInt8 := if b then 1 else 0

/-! ## Lengths -/

@[simp] theorem length_littleEndian (width n : Nat) : (littleEndian width n).length = width := by
  induction width generalizing n with
  | zero => rfl
  | succ width ih => simp [littleEndian, ih]

@[simp] theorem length_word16 (v : UInt16) : (word16 v).length = 2 := by simp [word16]

@[simp] theorem length_word32 (v : UInt32) : (word32 v).length = 4 := by simp [word32]

@[simp] theorem length_word64 (v : UInt64) : (word64 v).length = 8 := by simp [word64]

end ComputePlanner
