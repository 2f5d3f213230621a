import ComputePlanner.Proofs.Text.Utf8

/-! # Text has one written form
Bytes that are read as a text are the bytes of that text: no character can be spelled in another
way. The reader takes a character off the front by `Utf8.next`, whose ranges leave out every longer
spelling, so again the proof goes character by character:

* **`encodeChar_eq_one`** … **`encodeChar_eq_four`** — the bytes of a code point, by their number;
* **`encodeChar_of_next`** — a character that is read is the one these bytes are written for;
* **`decode_eq_ok_iff`** — reading succeeds on written texts and on nothing else. -/

namespace ComputePlanner

namespace Utf8

/-! ## The bytes of a code point -/

/-- A code point that is no surrogate is that of a character. -/
theorem toNat_ofNat {n : Nat} (h : n < 0xD800 ∨ 0xDFFF < n ∧ n < 0x110000) :
    (Char.ofNat n).toNat = n := by
  have valid : n.isValidChar := h
  rw [Char.ofNat, dif_pos valid]
  rfl

/-- A byte is that of its number. -/
theorem byte_eq {b : UInt8} {n : Nat} (h : n = b.toNat) : UInt8.ofNat n = b := by
  rw [h, UInt8.ofNat_toNat]

/-- One byte holds seven bits. -/
theorem encodeChar_eq_one {b : UInt8} (high : b.toNat < 0x80) :
    encodeChar (Char.ofNat b.toNat) = [b] := by
  rw [encodeChar, toNat_ofNat (by omega)]
  rw [if_pos high, byte_eq rfl]

/-- Two bytes hold eleven bits, if one does not hold them. -/
theorem encodeChar_eq_two {b b₁ : UInt8} {h l : Nat} (first : b.toNat = 0xC0 + h)
    (low : 2 ≤ h) (high : h < 32) (second : Carries b₁ l) :
    encodeChar (Char.ofNat (h * 64 + l)) = [b, b₁] := by
  have bits := second.toNat
  have range := isTail_iff.mp second.tail
  rw [encodeChar, toNat_ofNat (by omega)]
  rw [if_neg (by omega), if_pos (by omega), byte_eq (b := b) (by omega),
    byte_eq (b := b₁) (by omega)]

/-- Three bytes hold sixteen bits, if two do not hold them; surrogates are left out. -/
theorem encodeChar_eq_three {b b₁ b₂ : UInt8} {h m l : Nat} (first : b.toNat = 0xE0 + h)
    (high : h < 16) (second : Carries b₁ m) (overlong : h = 0 → 32 ≤ m)
    (surrogate : h = 13 → m < 32) (third : Carries b₂ l) :
    encodeChar (Char.ofNat (h * 4096 + m * 64 + l)) = [b, b₁, b₂] := by
  have bits₁ := second.toNat
  have bits₂ := third.toNat
  have range₁ := isTail_iff.mp second.tail
  have range₂ := isTail_iff.mp third.tail
  rw [encodeChar, toNat_ofNat (by omega)]
  rw [if_neg (by omega), if_neg (by omega), if_pos (by omega), byte_eq (b := b) (by omega),
    byte_eq (b := b₁) (by omega), byte_eq (b := b₂) (by omega)]

/-- Four bytes hold the rest. -/
theorem encodeChar_eq_four {b b₁ b₂ b₃ : UInt8} {h m l k : Nat} (first : b.toNat = 0xF0 + h)
    (high : h ≤ 4) (second : Carries b₁ m) (overlong : h = 0 → 16 ≤ m) (last : h = 4 → m < 16)
    (third : Carries b₂ l) (fourth : Carries b₃ k) :
    encodeChar (Char.ofNat (h * 262144 + m * 4096 + l * 64 + k)) = [b, b₁, b₂, b₃] := by
  have bits₁ := second.toNat
  have bits₂ := third.toNat
  have bits₃ := fourth.toNat
  have range₁ := isTail_iff.mp second.tail
  have range₂ := isTail_iff.mp third.tail
  have range₃ := isTail_iff.mp fourth.tail
  rw [encodeChar, toNat_ofNat (by omega)]
  rw [if_neg (by omega), if_neg (by omega), if_neg (by omega), byte_eq (b := b) (by omega),
    byte_eq (b := b₁) (by omega), byte_eq (b := b₂) (by omega), byte_eq (b := b₃) (by omega)]

/-! ## The front of a sequence -/

/-- A continuation byte carries its payload. -/
theorem carries_tailBits {b : UInt8} (tail : isTail b = true) : Carries b (tailBits b) := ⟨tail, rfl⟩

/-- A second byte that may follow is a continuation byte, and behind four first bytes its payload is
restricted. -/
theorem of_mayFollow {b b₁ : UInt8} (follows : mayFollow b b₁ = true) :
    isTail b₁ = true ∧ (b.toNat = 0xE0 → 32 ≤ tailBits b₁) ∧ (b.toNat = 0xED → tailBits b₁ < 32) ∧
      (b.toNat = 0xF0 → 16 ≤ tailBits b₁) ∧ (b.toNat = 0xF4 → tailBits b₁ < 16) := by
  have bits : tailBits b₁ = b₁.toNat - 0x80 := rfl
  have other {n : UInt8} (h : ¬b = n) : b.toNat ≠ n.toNat := fun same => h (UInt8.toNat_inj.mp same)
  rw [isTail_iff]
  simp only [mayFollow, secondRange, Bool.and_eq_true, decide_eq_true_eq,
    UInt8.le_iff_toNat_le] at follows
  -- the first byte is one of the four or none of them
  split at follows
  · simp only [‹b = _›, UInt8.reduceToNat] at follows ⊢
    omega
  split at follows
  · simp only [‹b = _›, UInt8.reduceToNat] at follows ⊢
    omega
  split at follows
  · simp only [‹b = _›, UInt8.reduceToNat] at follows ⊢
    omega
  split at follows
  · simp only [‹b = _›, UInt8.reduceToNat] at follows ⊢
    omega
  · have e0 := other ‹¬b = 0xE0›
    have ed := other ‹¬b = 0xED›
    have f0 := other ‹¬b = 0xF0›
    have f4 := other ‹¬b = 0xF4›
    simp only [UInt8.reduceToNat] at follows e0 ed f0 f4
    omega

/-- **A character that is read off the front is written as it stands there.** -/
theorem encodeChar_of_next {b : UInt8} {rest : Bytes} {c : Char} {n : Nat}
    (read : next b rest = .char c n) :
    ∃ tail behind, rest = tail ++ behind ∧ n = tail.length + 1 ∧ encodeChar c = b :: tail := by
  -- the first byte by number, for each of the limits that it is compared with
  have ascii : b < 0x80 ↔ b.toNat < 0x80 := lt_byte_iff (n := 0x80) (by decide)
  have two : b < 0xC2 ↔ b.toNat < 0xC2 := lt_byte_iff (n := 0xC2) (by decide)
  have three : b < 0xE0 ↔ b.toNat < 0xE0 := lt_byte_iff (n := 0xE0) (by decide)
  have four : b < 0xF0 ↔ b.toNat < 0xF0 := lt_byte_iff (n := 0xF0) (by decide)
  have none : b < 0xF5 ↔ b.toNat < 0xF5 := lt_byte_iff (n := 0xF5) (by decide)
  unfold next at read
  simp only [ascii, two, three, four, none] at read
  split at read
  · cases read
    exact ⟨[], rest, rfl, rfl, encodeChar_eq_one (by omega)⟩
  split at read
  · cases read
  split at read
  · cases rest with
    | nil => cases read
    | cons b₁ behind =>
      dsimp only at read
      split at read
      · obtain ⟨rfl, rfl⟩ := Next.char.inj read
        refine ⟨[b₁], behind, rfl, rfl, ?_⟩
        exact encodeChar_eq_two (by omega) (by omega) (by omega) (carries_tailBits ‹_›)
      · cases read
  split at read
  · rcases rest with _ | ⟨b₁, rest⟩
    · cases read
    dsimp only at read
    split at read
    · obtain ⟨second, e0, ed, -, -⟩ := of_mayFollow ‹_›
      rcases rest with _ | ⟨b₂, behind⟩
      · cases read
      dsimp only at read
      split at read
      · obtain ⟨rfl, rfl⟩ := Next.char.inj read
        refine ⟨[b₁, b₂], behind, rfl, rfl, ?_⟩
        exact encodeChar_eq_three (by omega) (by omega) (carries_tailBits second) (by omega)
          (by omega) (carries_tailBits ‹_›)
      · cases read
    · cases read
  split at read
  · rcases rest with _ | ⟨b₁, rest⟩
    · cases read
    dsimp only at read
    split at read
    · obtain ⟨second, -, -, f0, f4⟩ := of_mayFollow ‹_›
      rcases rest with _ | ⟨b₂, rest⟩
      · cases read
      dsimp only at read
      split at read
      · rcases rest with _ | ⟨b₃, behind⟩
        · cases read
        dsimp only at read
        split at read
        · obtain ⟨rfl, rfl⟩ := Next.char.inj read
          refine ⟨[b₁, b₂, b₃], behind, rfl, rfl, ?_⟩
          exact encodeChar_eq_four (by omega) (by omega) (carries_tailBits second) (by omega)
            (by omega) (carries_tailBits ‹_›) (carries_tailBits ‹_›)
        · cases read
      · cases read
    · cases read
  · cases read

/-! ## Texts -/

/-- Bytes that are read as characters, behind those read before, are the bytes of these. -/
theorem eq_flatMap_of_decodeFrom {read : List Char} {index : Nat} {bytes : Bytes} {cs : List Char}
    (h : decodeFrom read index 0 bytes = .ok cs) :
    ∃ cs', cs = read.reverse ++ cs' ∧ bytes = cs'.flatMap encodeChar := by
  -- a character takes at least one byte, so what is behind it is shorter
  induction length : bytes.length using Nat.strongRecOn generalizing read index bytes with
  | _ n ih =>
    cases bytes with
    | nil =>
      cases h
      exact ⟨[], (List.append_nil _).symm, rfl⟩
    | cons b rest =>
      rw [decodeFrom] at h
      cases front : next b rest with
      | char c width =>
        rw [front] at h
        obtain ⟨tail, behind, rfl, rfl, written⟩ := encodeChar_of_next front
        dsimp only at h
        rw [Nat.add_sub_cancel, decodeFrom_skip] at h
        rw [List.length_cons, List.length_append] at length
        obtain ⟨cs', rfl, rfl⟩ := ih behind.length (by omega) h rfl
        refine ⟨c :: cs', ?_, ?_⟩
        · rw [List.reverse_cons, List.append_assoc, List.singleton_append]
        · rw [List.flatMap_cons, written, List.cons_append]
      | invalid width =>
        rw [front] at h
        cases h
      | incomplete =>
        rw [front] at h
        cases h

/-- **Text has one written form**: bytes are read as a text exactly when they are its bytes. -/
theorem decode_eq_ok_iff {bytes : Bytes} {s : String} :
    decode bytes = .ok s ↔ bytes = encode s := by
  constructor
  · intro h
    rw [decode] at h
    cases read : decodeFrom [] 0 0 bytes with
    | ok cs =>
      rw [read] at h
      obtain rfl : String.ofList cs = s := Except.ok.inj h
      obtain ⟨cs', rfl, rfl⟩ := eq_flatMap_of_decodeFrom read
      rw [encode, String.toList_ofList]
    | error fault =>
      rw [read] at h
      cases h
  · rintro rfl
    exact decode_encode s

end Utf8

end ComputePlanner
