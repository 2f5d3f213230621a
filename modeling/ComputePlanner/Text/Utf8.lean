import ComputePlanner.Bytes.LittleEndian

/-! # UTF-8
Text is stored as UTF-8. **`Utf8.encode`** writes it; **`Utf8.decode`** reads it back or says where
and how the bytes stop being text: a **`Utf8.Fault`** holds the offset of the first sequence that is
no character and how many of its bytes could still have begun one, or that the data ended inside a
sequence that was legal so far. **`Utf8.scan`** never fails and marks each stray byte instead.

One character is read by `Utf8.next`, whose ranges are those of the standard: no overlong forms, no
surrogates, nothing above U+10FFFF. -/

namespace ComputePlanner

namespace Utf8

/-- The bytes of one character. -/
def encodeChar (c : Char) : Bytes :=
  let n := c.toNat
  if n < 0x80 then [UInt8.ofNat n]
  else if n < 0x800 then [UInt8.ofNat (0xC0 + n / 64), UInt8.ofNat (0x80 + n % 64)]
  else if n < 0x10000 then
    [UInt8.ofNat (0xE0 + n / 4096), UInt8.ofNat (0x80 + n / 64 % 64), UInt8.ofNat (0x80 + n % 64)]
  else
    [UInt8.ofNat (0xF0 + n / 262144), UInt8.ofNat (0x80 + n / 4096 % 64),
      UInt8.ofNat (0x80 + n / 64 % 64), UInt8.ofNat (0x80 + n % 64)]

/-- The bytes of a text. -/
def encode (s : String) : Bytes := s.toList.flatMap encodeChar

/-- How a byte sequence fails to be text. -/
inductive Fault
  /-- The sequence at `index` breaks after `length` bytes that could have begun a character. -/
  | invalid (length index : Nat)
  /-- The data ends inside the sequence that starts at `index`. -/
  | incomplete (index : Nat)
  deriving DecidableEq, Repr

/-- The wording of a fault. -/
def Fault.message : Fault → String
  | .invalid length index =>
    "invalid utf-8 sequence of " ++ toString length ++ " bytes from index " ++ toString index
  | .incomplete index => "incomplete utf-8 byte sequence from index " ++ toString index

/-- What the front of a byte sequence holds. -/
inductive Next
  /-- A character and how many bytes it takes. -/
  | char (c : Char) (length : Nat)
  /-- No character: this many bytes could have begun one (at least one is dropped). -/
  | invalid (length : Nat)
  /-- The data ends within a sequence that is legal so far. -/
  | incomplete
  deriving DecidableEq, Repr

/-- Whether a byte continues a sequence. -/
def isTail (b : UInt8) : Bool := 0x80 ≤ b && b ≤ 0xBF

/-- The payload of a continuation byte. -/
def tailBits (b : UInt8) : Nat := b.toNat - 0x80

/-- The range the second byte must lie in, given the first: it rules out overlong forms, surrogates
and code points above the last. -/
def secondRange (b : UInt8) : UInt8 × UInt8 :=
  if b = 0xE0 then (0xA0, 0xBF)
  else if b = 0xED then (0x80, 0x9F)
  else if b = 0xF0 then (0x90, 0xBF)
  else if b = 0xF4 then (0x80, 0x8F)
  else (0x80, 0xBF)

/-- Whether `second` may follow `first`. -/
def mayFollow (first second : UInt8) : Bool :=
  (secondRange first).1 ≤ second && second ≤ (secondRange first).2

/-- The character at the front of a sequence that starts with `b`. -/
def next (b : UInt8) (rest : Bytes) : Next :=
  if b < 0x80 then .char (Char.ofNat b.toNat) 1
  else if b < 0xC2 then .invalid 1
  else if b < 0xE0 then
    match rest with
    | [] => .incomplete
    | b₁ :: _ =>
      if isTail b₁ then .char (Char.ofNat ((b.toNat - 0xC0) * 64 + tailBits b₁)) 2 else .invalid 1
  else if b < 0xF0 then
    match rest with
    | [] => .incomplete
    | b₁ :: rest =>
      if mayFollow b b₁ then
        match rest with
        | [] => .incomplete
        | b₂ :: _ =>
          if isTail b₂ then
            .char (Char.ofNat ((b.toNat - 0xE0) * 4096 + tailBits b₁ * 64 + tailBits b₂)) 3
          else .invalid 2
      else .invalid 1
  else if b < 0xF5 then
    match rest with
    | [] => .incomplete
    | b₁ :: rest =>
      if mayFollow b b₁ then
        match rest with
        | [] => .incomplete
        | b₂ :: rest =>
          if isTail b₂ then
            match rest with
            | [] => .incomplete
            | b₃ :: _ =>
              if isTail b₃ then
                .char (Char.ofNat ((b.toNat - 0xF0) * 262144 + tailBits b₁ * 4096
                  + tailBits b₂ * 64 + tailBits b₃)) 4
              else .invalid 3
          else .invalid 2
      else .invalid 1
  else .invalid 1

/-- Reads characters from `bytes`, which start at `index`; `skip` bytes belong to the character read
last, and `read` holds the characters so far, newest first. -/
def decodeFrom (read : List Char) (index skip : Nat) : Bytes → Except Fault (List Char)
  | [] => .ok read.reverse
  | b :: bytes =>
    match skip with
    | skip + 1 => decodeFrom read (index + 1) skip bytes
    | 0 =>
      match next b bytes with
      | .char c length => decodeFrom (c :: read) (index + 1) (length - 1) bytes
      | .invalid length => .error (.invalid length index)
      | .incomplete => .error (.incomplete index)

/-- The text the bytes hold. -/
def decode (bytes : Bytes) : Except Fault String :=
  (decodeFrom [] 0 0 bytes).map String.ofList

/-- Reads what can be read, newest first; see `scan`. -/
def scanFrom (read : List (Option Char)) (skip : Nat) : Bytes → List (Option Char)
  | [] => read.reverse
  | b :: bytes =>
    match skip with
    | skip + 1 => scanFrom read skip bytes
    | 0 =>
      match next b bytes with
      | .char c length => scanFrom (some c :: read) (length - 1) bytes
      | .invalid _ => scanFrom (none :: read) 0 bytes
      | .incomplete => scanFrom (none :: read) 0 bytes

/-- The characters of the bytes, with `none` for every byte that belongs to none. -/
def scan (bytes : Bytes) : List (Option Char) := scanFrom [] 0 bytes

end Utf8

end ComputePlanner
