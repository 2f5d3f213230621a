import ComputePlanner.Bytes.Cursor
import ComputePlanner.Proofs.Except
import Mathlib.Algebra.Group.Nat.Defs

/-! # What reads take off a buffer
A read that succeeds has taken bytes off the front, and which bytes they are is settled by what it
gave: the written form of the word it read. **`Cursor.Took`** says that a cursor is behind certain
bytes of another; each read succeeds exactly when it takes the written form of its result
(`Cursor.take_eq_ok_iff` and the lemmas behind it). Numbers and their bytes determine each other
(`ofLittleEndian_littleEndian`, `littleEndian_ofLittleEndian`). -/

namespace ComputePlanner

/-! ## Numbers and their bytes -/

@[simp] theorem ofLittleEndian_littleEndian (width n : Nat) :
    ofLittleEndian (littleEndian width n) = n % 256 ^ width := by
  induction width generalizing n with
  | zero => simp [littleEndian, ofLittleEndian, Nat.mod_one]
  | succ width ih =>
    simp only [littleEndian, ofLittleEndian, ih, UInt8.toNat_ofNat']
    rw [show 256 ^ (width + 1) = 256 * 256 ^ width by rw [Nat.pow_succ, Nat.mul_comm],
      Nat.mod_mul]

/-- A number read from `k` bytes needs no more than `k` bytes. -/
theorem ofLittleEndian_lt (bs : Bytes) : ofLittleEndian bs < 256 ^ bs.length := by
  induction bs with
  | nil => simp [ofLittleEndian]
  | cons b bs ih =>
    have := b.toNat_lt
    simp only [ofLittleEndian, List.length_cons, Nat.pow_succ]
    omega

@[simp] theorem littleEndian_ofLittleEndian (bs : Bytes) :
    littleEndian bs.length (ofLittleEndian bs) = bs := by
  induction bs with
  | nil => rfl
  | cons b bs ih =>
    have hb := b.toNat_lt
    simp only [List.length_cons, littleEndian, ofLittleEndian]
    congr 1
    · apply UInt8.toNat_inj.1
      simp only [UInt8.toNat_ofNat']
      omega
    · rw [show (b.toNat + 256 * ofLittleEndian bs) / 256 = ofLittleEndian bs by omega, ih]

namespace Cursor

/-- The bytes `front` lie between `c` and `c'`: they have been **taken** off. -/
structure Took (c : Cursor) (front : Bytes) (c' : Cursor) : Prop where
  bytes : c.rest = front ++ c'.rest
  offset : c'.offset = c.offset + front.length

variable {c c' : Cursor}

/-- Taking nothing leads nowhere. -/
@[simp] theorem took_nil : c.Took [] c' ↔ c' = c := by
  obtain ⟨off, rest⟩ := c
  obtain ⟨off', rest'⟩ := c'
  constructor
  · rintro ⟨bytes, offset⟩
    simp only [List.nil_append, List.length_nil, Nat.add_zero] at bytes offset
    rw [bytes, offset]
  · rintro ⟨rfl, rfl⟩
    exact ⟨rfl, rfl⟩

/-- Bytes are taken one part after the other. -/
theorem took_append {front behind : Bytes} :
    c.Took (front ++ behind) c' ↔ ∃ mid, c.Took front mid ∧ mid.Took behind c' := by
  constructor
  · rintro ⟨bytes, offset⟩
    refine ⟨⟨c.offset + front.length, behind ++ c'.rest⟩, ⟨?_, rfl⟩, ⟨rfl, ?_⟩⟩
    · rw [bytes, List.append_assoc]
    · rw [offset, List.length_append, Nat.add_assoc]
  · rintro ⟨mid, first, next⟩
    refine ⟨?_, ?_⟩
    · rw [first.bytes, next.bytes, List.append_assoc]
    · rw [next.offset, first.offset, List.length_append, Nat.add_assoc]

/-- What is taken and what is left are all there was. -/
theorem Took.length {front : Bytes} (took : c.Took front c') :
    c.rest.length = front.length + c'.rest.length := by
  rw [took.bytes, List.length_append]

/-- What is taken by the time that nothing is left is all there was. -/
theorem Took.eq_of_empty {front : Bytes} (took : c.Took front c') (empty : c'.remaining = 0) :
    c.rest = front := by
  rw [took.bytes, List.eq_nil_of_length_eq_zero empty, List.append_nil]

/-! ## The reads -/

/-- A read of so many bytes takes them. -/
theorem take_eq_ok_iff {n : Nat} {front : Bytes} :
    c.take n = .ok (front, c') ↔ front.length = n ∧ c.Took front c' := by
  obtain ⟨off, rest⟩ := c
  constructor
  · intro read
    by_cases enough : n ≤ rest.length
    · rw [take_eq_ok _ enough] at read
      cases read
      have length : (rest.take n).length = n := List.length_take_of_le enough
      refine ⟨length, (List.take_append_drop n rest).symm, ?_⟩
      rw [length]
    · rw [take_eq_error _ (Nat.lt_of_not_le enough)] at read
      cases read
  · rintro ⟨rfl, bytes, offset⟩
    obtain ⟨off', rest'⟩ := c'
    dsimp only at bytes offset
    rw [bytes, offset, take_append]

/-- A read of a byte takes it. -/
theorem byte_eq_ok_iff {b : UInt8} : c.byte = .ok (b, c') ↔ c.Took [b] c' := by
  obtain ⟨off, rest⟩ := c
  obtain ⟨off', rest'⟩ := c'
  cases rest with
  | nil =>
    refine iff_of_false nofun fun took => ?_
    have bytes : [] = [b] ++ rest' := took.bytes
    cases bytes
  | cons first rest =>
    have read : byte ⟨off, first :: rest⟩ = .ok (first, ⟨off + 1, rest⟩) := rfl
    rw [read]
    constructor
    · rintro ⟨⟩
      exact ⟨rfl, rfl⟩
    · rintro ⟨bytes, offset⟩
      obtain ⟨rfl, rfl⟩ := List.cons.inj bytes
      exact congrArg (fun off => Except.ok (first, Cursor.mk off rest)) offset.symm

/-- A read of a number takes as many of its bytes as it is wide. -/
theorem number_eq_ok_iff {width n : Nat} :
    c.number width = .ok (n, c') ↔ n < 256 ^ width ∧ c.Took (littleEndian width n) c' := by
  rw [number, bind_eq_ok]
  constructor
  · rintro ⟨⟨front, rest⟩, read, last⟩
    cases last
    obtain ⟨rfl, took⟩ := take_eq_ok_iff.mp read
    rw [littleEndian_ofLittleEndian]
    exact ⟨ofLittleEndian_lt front, took⟩
  · rintro ⟨below, took⟩
    refine ⟨(littleEndian width n, c'), take_eq_ok_iff.mpr ⟨length_littleEndian width n, took⟩, ?_⟩
    show Except.ok (ofLittleEndian (littleEndian width n), c') = _
    rw [ofLittleEndian_littleEndian, Nat.mod_eq_of_lt below]

/-- A read of a 16-bit word takes its two bytes. -/
theorem u16_eq_ok_iff {v : UInt16} : c.u16 = .ok (v, c') ↔ c.Took (word16 v) c' := by
  rw [u16, bind_eq_ok]
  constructor
  · rintro ⟨⟨n, rest⟩, read, last⟩
    cases last
    obtain ⟨below, took⟩ := number_eq_ok_iff.mp read
    rwa [word16, UInt16.toNat_ofNat_of_lt' below]
  · intro took
    refine ⟨(v.toNat, c'), number_eq_ok_iff.mpr ⟨v.toNat_lt, took⟩, ?_⟩
    show Except.ok (UInt16.ofNat v.toNat, c') = _
    rw [UInt16.ofNat_toNat]

/-- A read of a 32-bit word takes its four bytes. -/
theorem u32_eq_ok_iff {v : UInt32} : c.u32 = .ok (v, c') ↔ c.Took (word32 v) c' := by
  rw [u32, bind_eq_ok]
  constructor
  · rintro ⟨⟨n, rest⟩, read, last⟩
    cases last
    obtain ⟨below, took⟩ := number_eq_ok_iff.mp read
    rwa [word32, UInt32.toNat_ofNat_of_lt' below]
  · intro took
    refine ⟨(v.toNat, c'), number_eq_ok_iff.mpr ⟨v.toNat_lt, took⟩, ?_⟩
    show Except.ok (UInt32.ofNat v.toNat, c') = _
    rw [UInt32.ofNat_toNat]

end Cursor

end ComputePlanner
