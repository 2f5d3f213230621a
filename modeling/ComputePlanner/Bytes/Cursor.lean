import ComputePlanner.Bytes.LittleEndian

/-! # Reading a buffer from front to back
A **cursor** is what is left of a buffer together with the offset it has reached. Every read either
takes exactly the bytes it asks for or fails with a **`ShortRead`**, which names the offset, the
bytes asked for and the bytes that were left. -/

namespace ComputePlanner

/-- A read that asked for more bytes than were left. -/
structure ShortRead where
  /-- Bytes asked for. -/
  needed : Nat
  /-- Where the read began. -/
  offset : Nat
  /-- Bytes left there. -/
  available : Nat
  deriving DecidableEq, Repr

/-- What is left of a buffer, and the offset at which it starts. -/
structure Cursor where
  /-- Bytes read so far. -/
  offset : Nat
  /-- Bytes still to read. -/
  rest : Bytes
  deriving DecidableEq, Repr

namespace Cursor

/-- A cursor at the start of a buffer. -/
def start (buf : Bytes) : Cursor := ⟨0, buf⟩

/-- Bytes still to read. -/
def remaining (c : Cursor) : Nat := c.rest.length

/-- The next `n` bytes. -/
def take (c : Cursor) (n : Nat) : Except ShortRead (Bytes × Cursor) :=
  let got := c.rest.take n
  if got.length = n then .ok (got, ⟨c.offset + n, c.rest.drop n⟩)
  else .error ⟨n, c.offset, got.length⟩

/-- The next byte. -/
def byte (c : Cursor) : Except ShortRead (UInt8 × Cursor) :=
  match c.rest with
  | b :: rest => .ok (b, ⟨c.offset + 1, rest⟩)
  | [] => .error ⟨1, c.offset, 0⟩

/-- The number in the next `width` bytes. -/
def number (c : Cursor) (width : Nat) : Except ShortRead (Nat × Cursor) := do
  let (bytes, c) ← c.take width
  return (ofLittleEndian bytes, c)

/-- The next 16-bit word. -/
def u16 (c : Cursor) : Except ShortRead (UInt16 × Cursor) := do
  let (n, c) ← c.number 2
  return (UInt16.ofNat n, c)

/-- The next 32-bit word. -/
def u32 (c : Cursor) : Except ShortRead (UInt32 × Cursor) := do
  let (n, c) ← c.number 4
  return (UInt32.ofNat n, c)

/-- The next 64-bit word. -/
def u64 (c : Cursor) : Except ShortRead (UInt64 × Cursor) := do
  let (n, c) ← c.number 8
  return (UInt64.ofNat n, c)

/-- The next run of bytes that carries its own length in front, as a 32-bit word. -/
def chunk (c : Cursor) : Except ShortRead (Bytes × Cursor) := do
  let (n, c) ← c.u32
  c.take n.toNat

/-! ## What a read takes -/

/-- A read succeeds exactly when enough bytes are left. -/
theorem take_eq_ok (c : Cursor) {n : Nat} (h : n ≤ c.rest.length) :
    c.take n = .ok (c.rest.take n, ⟨c.offset + n, c.rest.drop n⟩) := by
  simp [take, Nat.min_eq_left h]

/-- A read that finds too little reports what was left. -/
theorem take_eq_error (c : Cursor) {n : Nat} (h : c.rest.length < n) :
    c.take n = .error ⟨n, c.offset, c.rest.length⟩ := by
  have : ¬ min n c.rest.length = n := by omega
  simp only [take, List.length_take]
  rw [if_neg this, Nat.min_eq_right (by omega)]

/-- A read of exactly the bytes in front gives them and stops behind them. -/
@[simp] theorem take_append (off : Nat) (front rest : Bytes) :
    take ⟨off, front ++ rest⟩ front.length = .ok (front, ⟨off + front.length, rest⟩) := by
  rw [take_eq_ok _ (by simp)]
  simp

end Cursor

end ComputePlanner
