import ComputePlanner.Text.Utf8
import Mathlib.Logic.Basic

/-! # Text survives being written
`Utf8.decode` gives back what `Utf8.encode` wrote. The reader takes a character off the front by
`Utf8.next`, so the proof goes character by character:

* **`Carries`** — a byte is a continuation byte with certain six bits;
* **`next_one`** … **`next_four`** — the front of a sequence of each length is the character whose
  bits it carries;
* **`encodeChar_eq_cons`** — the bytes of a character are such a sequence;
* **`decode_encode`** — the text is read back;
* **`scan_encode`** — scanning finds its characters, too, and no stray byte;
* **`zero_mem_encode_iff`** — a zero among the bytes is a zero character. -/

namespace ComputePlanner

namespace Utf8

/-! ## Bytes as numbers -/

/-- A number below 256 is the number of its byte. -/
theorem toNat_byte {n : Nat} (h : n < 256) : (UInt8.ofNat n).toNat = n := by
  rw [UInt8.toNat_ofNat', Nat.mod_eq_of_lt h]

/-- Comparing a byte with one that is given by its number. -/
theorem lt_byte_iff {b : UInt8} {n : Nat} (h : n < 256) : b < UInt8.ofNat n ↔ b.toNat < n := by
  rw [UInt8.lt_iff_toNat_lt, toNat_byte h]

/-- A byte that is not below one that is given by its number. -/
theorem not_lt_byte {b : UInt8} {n : Nat} (h : n < 256) (le : n ≤ b.toNat) :
    ¬ b < UInt8.ofNat n := by
  rw [lt_byte_iff h]
  omega

/-- The continuation bytes by number. -/
theorem isTail_iff {b : UInt8} : isTail b = true ↔ 0x80 ≤ b.toNat ∧ b.toNat ≤ 0xBF := by
  simp only [isTail, Bool.and_eq_true, decide_eq_true_eq, UInt8.le_iff_toNat_le, UInt8.reduceToNat]

/-- A continuation byte that **carries** the six bits `bits` of a character. -/
structure Carries (b : UInt8) (bits : Nat) : Prop where
  tail : isTail b = true
  bits : tailBits b = bits

/-- The continuation byte that is written for six bits carries them. -/
theorem carries_byte {k : Nat} (h : k < 64) : Carries (UInt8.ofNat (0x80 + k)) k := by
  have value := toNat_byte (n := 0x80 + k) (by omega)
  have bits : tailBits (UInt8.ofNat (0x80 + k)) = (UInt8.ofNat (0x80 + k)).toNat - 0x80 := rfl
  exact ⟨isTail_iff.2 (by omega), by omega⟩

/-- The number of a continuation byte. -/
theorem Carries.toNat {b : UInt8} {k : Nat} (h : Carries b k) : b.toNat = 0x80 + k := by
  have range := isTail_iff.1 h.tail
  have bits : tailBits b = b.toNat - 0x80 := rfl
  have := h.bits
  omega

/-! ## The front of a sequence -/

/-- An ASCII character stands for itself. -/
theorem next_one {b : UInt8} {n : Nat} (first : b.toNat = n) (high : n < 0x80) (rest : Bytes) :
    next b rest = .char (Char.ofNat n) 1 := by
  have ascii : b < 0x80 := (lt_byte_iff (n := 0x80) (by decide)).2 (by omega)
  unfold next
  rw [if_pos ascii, first]

/-- A sequence of two bytes that is not overlong. -/
theorem next_two {b₀ b₁ : UInt8} {h l : Nat} (first : b₀.toNat = 0xC0 + h) (low : 2 ≤ h)
    (high : h < 32) (second : Carries b₁ l) (rest : Bytes) :
    next b₀ (b₁ :: rest) = .char (Char.ofNat (h * 64 + l)) 2 := by
  have not_ascii : ¬ b₀ < 0x80 := not_lt_byte (n := 0x80) (by decide) (by omega)
  have not_tail : ¬ b₀ < 0xC2 := not_lt_byte (n := 0xC2) (by decide) (by omega)
  have two : b₀ < 0xE0 := (lt_byte_iff (n := 0xE0) (by decide)).2 (by omega)
  have value : (b₀.toNat - 0xC0) * 64 + tailBits b₁ = h * 64 + l := by
    rw [first, second.bits, Nat.add_sub_cancel_left]
  unfold next
  simp only [not_ascii, not_tail, two, second.tail, if_true, if_false, value]

/-- A continuation byte may follow any first byte but four, which restrict its bits. -/
theorem Carries.mayFollow {b₀ b₁ : UInt8} {l : Nat} (second : Carries b₁ l)
    (h₀ : b₀ = 0xE0 → 32 ≤ l) (h₁ : b₀ = 0xED → l < 32) (h₂ : b₀ = 0xF0 → 16 ≤ l)
    (h₃ : b₀ = 0xF4 → l < 16) : mayFollow b₀ b₁ = true := by
  have range := isTail_iff.1 second.tail
  have value := second.toNat
  simp only [Utf8.mayFollow, secondRange, Bool.and_eq_true, decide_eq_true_eq,
    UInt8.le_iff_toNat_le]
  split
  · have := h₀ ‹_›
    simp only [UInt8.reduceToNat]
    omega
  split
  · have := h₁ ‹_›
    simp only [UInt8.reduceToNat]
    omega
  split
  · have := h₂ ‹_›
    simp only [UInt8.reduceToNat]
    omega
  split
  · have := h₃ ‹_›
    simp only [UInt8.reduceToNat]
    omega
  · simpa only [UInt8.reduceToNat] using range

/-- A sequence of three bytes that is not overlong and no surrogate. -/
theorem next_three {b₀ b₁ b₂ : UInt8} {h m l : Nat} (first : b₀.toNat = 0xE0 + h) (high : h < 16)
    (second : Carries b₁ m) (overlong : h = 0 → 32 ≤ m) (surrogate : h = 13 → m < 32)
    (third : Carries b₂ l) (rest : Bytes) :
    next b₀ (b₁ :: b₂ :: rest) = .char (Char.ofNat (h * 4096 + m * 64 + l)) 3 := by
  have not_ascii : ¬ b₀ < 0x80 := not_lt_byte (n := 0x80) (by decide) (by omega)
  have not_tail : ¬ b₀ < 0xC2 := not_lt_byte (n := 0xC2) (by decide) (by omega)
  have not_two : ¬ b₀ < 0xE0 := not_lt_byte (n := 0xE0) (by decide) (by omega)
  have three : b₀ < 0xF0 := (lt_byte_iff (n := 0xF0) (by decide)).2 (by omega)
  have follows : mayFollow b₀ b₁ = true := by
    refine second.mayFollow ?_ ?_ ?_ ?_ <;> intro eq <;> rw [eq] at first <;>
      simp only [UInt8.reduceToNat] at first <;> omega
  have value : (b₀.toNat - 0xE0) * 4096 + tailBits b₁ * 64 + tailBits b₂
      = h * 4096 + m * 64 + l := by
    rw [first, second.bits, third.bits, Nat.add_sub_cancel_left]
  unfold next
  simp only [not_ascii, not_tail, not_two, three, follows, third.tail, if_true, if_false, value]

/-- A sequence of four bytes that is not overlong and not above the last code point. -/
theorem next_four {b₀ b₁ b₂ b₃ : UInt8} {h m l k : Nat} (first : b₀.toNat = 0xF0 + h)
    (high : h ≤ 4) (second : Carries b₁ m) (overlong : h = 0 → 16 ≤ m) (last : h = 4 → m < 16)
    (third : Carries b₂ l) (fourth : Carries b₃ k) (rest : Bytes) :
    next b₀ (b₁ :: b₂ :: b₃ :: rest)
      = .char (Char.ofNat (h * 262144 + m * 4096 + l * 64 + k)) 4 := by
  have not_ascii : ¬ b₀ < 0x80 := not_lt_byte (n := 0x80) (by decide) (by omega)
  have not_tail : ¬ b₀ < 0xC2 := not_lt_byte (n := 0xC2) (by decide) (by omega)
  have not_two : ¬ b₀ < 0xE0 := not_lt_byte (n := 0xE0) (by decide) (by omega)
  have not_three : ¬ b₀ < 0xF0 := not_lt_byte (n := 0xF0) (by decide) (by omega)
  have four : b₀ < 0xF5 := (lt_byte_iff (n := 0xF5) (by decide)).2 (by omega)
  have follows : mayFollow b₀ b₁ = true := by
    refine second.mayFollow ?_ ?_ ?_ ?_ <;> intro eq <;> rw [eq] at first <;>
      simp only [UInt8.reduceToNat] at first <;> omega
  have value : (b₀.toNat - 0xF0) * 262144 + tailBits b₁ * 4096 + tailBits b₂ * 64 + tailBits b₃
      = h * 262144 + m * 4096 + l * 64 + k := by
    rw [first, second.bits, third.bits, fourth.bits, Nat.add_sub_cancel_left]
  unfold next
  simp only [not_ascii, not_tail, not_two, not_three, four, follows, third.tail, fourth.tail,
    if_true, if_false, value]

/-! ## Characters and texts -/

/-- The code points of characters: surrogates are left out. -/
theorem toNat_range (c : Char) : c.toNat < 0xD800 ∨ 0xDFFF < c.toNat ∧ c.toNat < 0x110000 := by
  have valid := c.valid
  simp only [UInt32.isValidChar, Nat.isValidChar] at valid
  exact valid

/-- The bytes of a character are not empty, and at the front of any data they are read as it. -/
theorem encodeChar_eq_cons (c : Char) : ∃ b tail, encodeChar c = b :: tail ∧
    ∀ rest, next b (tail ++ rest) = .char c (tail.length + 1) := by
  have range := toNat_range c
  have back : Char.ofNat c.toNat = c := Char.ofNat_toNat c
  unfold encodeChar
  generalize c.toNat = n at range back
  subst back
  dsimp only
  -- one case for each length of the sequence
  split
  · exact ⟨_, [], rfl, next_one (toNat_byte (by omega)) ‹_›⟩
  split
  · refine ⟨_, [_], rfl, fun rest => ?_⟩
    have value : n / 64 * 64 + n % 64 = n := Nat.div_add_mod' n 64
    rw [List.singleton_append, next_two (toNat_byte (by omega)) (by omega) (by omega)
      (carries_byte (Nat.mod_lt _ (by decide))), value]
    rfl
  split
  · refine ⟨_, [_, _], rfl, fun rest => ?_⟩
    have value : n / 4096 * 4096 + n / 64 % 64 * 64 + n % 64 = n := by omega
    rw [List.cons_append, List.singleton_append, next_three (toNat_byte (by omega)) (by omega)
      (carries_byte (Nat.mod_lt _ (by decide))) (by omega) (by omega)
      (carries_byte (Nat.mod_lt _ (by decide))), value]
    rfl
  · refine ⟨_, [_, _, _], rfl, fun rest => ?_⟩
    have value : n / 262144 * 262144 + n / 4096 % 64 * 4096 + n / 64 % 64 * 64 + n % 64 = n := by
      omega
    rw [List.cons_append, List.cons_append, List.singleton_append,
      next_four (toNat_byte (by omega)) (by omega) (carries_byte (Nat.mod_lt _ (by decide)))
      (by omega) (by omega) (carries_byte (Nat.mod_lt _ (by decide)))
      (carries_byte (Nat.mod_lt _ (by decide))), value]
    rfl

/-- The bytes of a character already read are passed over. -/
theorem decodeFrom_skip (read : List Char) (index : Nat) (front rest : Bytes) :
    decodeFrom read index front.length (front ++ rest)
      = decodeFrom read (index + front.length) 0 rest := by
  induction front generalizing index with
  | nil => rfl
  | cons b front ih =>
    rw [List.length_cons, List.cons_append, decodeFrom, ih]
    congr 1
    omega

/-- The bytes of a character in front are read as it. -/
theorem decodeFrom_encodeChar (read : List Char) (index : Nat) (c : Char) (rest : Bytes) :
    decodeFrom read index 0 (encodeChar c ++ rest)
      = decodeFrom (c :: read) (index + (encodeChar c).length) 0 rest := by
  obtain ⟨b, tail, bytes, char⟩ := encodeChar_eq_cons c
  rw [bytes, List.cons_append, decodeFrom, char rest]
  simp only [Nat.add_sub_cancel]
  rw [decodeFrom_skip, List.length_cons]
  congr 1
  omega

/-- The bytes of characters are read as them, behind those read before. -/
theorem decodeFrom_encode (read : List Char) (index : Nat) (cs : List Char) :
    decodeFrom read index 0 (cs.flatMap encodeChar) = .ok (read.reverse ++ cs) := by
  induction cs generalizing read index with
  | nil => simp [decodeFrom]
  | cons c cs ih =>
    rw [List.flatMap_cons, decodeFrom_encodeChar, ih, List.reverse_cons, List.append_assoc,
      List.singleton_append]

/-- **Text survives being written**: the bytes of a text are read as the text. -/
@[simp] theorem decode_encode (s : String) : decode (encode s) = .ok s := by
  rw [decode, encode, decodeFrom_encode]
  simp [Except.map]

/-- Scanning passes over the bytes of a character already read. -/
theorem scanFrom_skip (read : List (Option Char)) (front rest : Bytes) :
    scanFrom read front.length (front ++ rest) = scanFrom read 0 rest := by
  induction front with
  | nil => rfl
  | cons b front ih => rw [List.length_cons, List.cons_append, scanFrom, ih]

/-- Scanning reads the bytes of characters as them, behind those read before. -/
theorem scanFrom_encode (read : List (Option Char)) (cs : List Char) :
    scanFrom read 0 (cs.flatMap encodeChar) = read.reverse ++ cs.map some := by
  induction cs generalizing read with
  | nil => simp [scanFrom]
  | cons c cs ih =>
    obtain ⟨b, tail, bytes, char⟩ := encodeChar_eq_cons c
    rw [List.flatMap_cons, bytes, List.cons_append, scanFrom, char]
    simp only [Nat.add_sub_cancel]
    rw [scanFrom_skip, ih, List.reverse_cons, List.append_assoc, List.map_cons, List.singleton_append]

/-- Scanning the bytes of a text gives its characters and no stray byte. -/
@[simp] theorem scan_encode (s : String) : scan (encode s) = s.toList.map some :=
  scanFrom_encode [] s.toList

/-- Different texts have different bytes. -/
theorem encode_injective : Function.Injective encode := by
  intro s t same
  have read := decode_encode s
  rw [same, decode_encode] at read
  exact (Except.ok.inj read).symm

/-! ## Zeros -/

/-- Among bytes that are given by numbers above 0 there is no zero. -/
theorem zero_not_mem_bytes {ns : List Nat} (range : ∀ n ∈ ns, 0 < n ∧ n < 256) :
    0 ∉ ns.map UInt8.ofNat := by
  rw [List.mem_map]
  rintro ⟨n, mem, byte⟩
  obtain ⟨above, small⟩ := range n mem
  have value := toNat_byte small
  rw [byte, UInt8.toNat_zero] at value
  omega

/-- Only the zero character has a zero among its bytes. -/
theorem zero_mem_encodeChar_iff (c : Char) : 0 ∈ encodeChar c ↔ c = '\x00' := by
  have range := toNat_range c
  rw [← Char.toNat_inj, show '\x00'.toNat = 0 from rfl]
  unfold encodeChar
  generalize c.toNat = n at range
  have longer (ns : List Nat) (long : 0 < n) (bytes : ∀ n ∈ ns, 0 < n ∧ n < 256) :
      0 ∈ ns.map UInt8.ofNat ↔ n = 0 :=
    iff_of_false (zero_not_mem_bytes bytes) (Nat.ne_zero_of_lt long)
  dsimp only
  -- one case for each length of the sequence
  split
  · by_cases zero : n = 0
    · rw [zero]
      decide
    · refine longer [n] (by omega) ?_
      simp only [List.forall_mem_singleton]
      omega
  split
  · refine longer [_, _] (by omega) ?_
    simp only [List.forall_mem_cons, List.not_mem_nil, false_imp_iff, implies_true, and_true]
    omega
  split
  · refine longer [_, _, _] (by omega) ?_
    simp only [List.forall_mem_cons, List.not_mem_nil, false_imp_iff, implies_true, and_true]
    omega
  · refine longer [_, _, _, _] (by omega) ?_
    simp only [List.forall_mem_cons, List.not_mem_nil, false_imp_iff, implies_true, and_true]
    omega

/-- A text has a zero among its bytes exactly if it has the zero character. -/
theorem zero_mem_encode_iff (s : String) : 0 ∈ encode s ↔ '\x00' ∈ s.toList := by
  rw [encode, List.mem_flatMap]
  constructor
  · rintro ⟨c, mem, zero⟩
    rwa [← (zero_mem_encodeChar_iff c).mp zero]
  · intro mem
    exact ⟨'\x00', mem, (zero_mem_encodeChar_iff _).mpr rfl⟩

/-! ## Lengths -/

/-- A text of ASCII characters has a byte for each. -/
theorem length_encode_ofList {cs : List Char} (ascii : ∀ c ∈ cs, c.toNat < 0x80) :
    (encode (String.ofList cs)).length = cs.length := by
  rw [encode, String.toList_ofList]
  induction cs with
  | nil => rfl
  | cons c cs ih =>
    obtain ⟨first, others⟩ := List.forall_mem_cons.mp ascii
    have one : encodeChar c = [UInt8.ofNat c.toNat] := if_pos first
    rw [List.flatMap_cons, one, List.singleton_append, List.length_cons, ih others, List.length_cons]

end Utf8

end ComputePlanner
