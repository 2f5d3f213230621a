import ComputePlanner.Json.Render
import ComputePlanner.Proofs.Json.Numerals

/-! # Tokens survive being written
The characters of a token, at the front of any source, are cut off as the token again. Two things make
this more than a look at each token. A number ends where its digits do, so what stands behind it must
not go on with it (**`EndsNumber`**). And a text is written with escapes: what is read are pieces
(**`pieceOf`**), which stand for its characters.

Main statement: **`token?_chars`**. -/

namespace ComputePlanner

namespace Json

/-! ## Numbers -/

/-- A source that does not go on with a number in front of it. -/
def EndsNumber (source : Source) : Prop :=
  ∀ c rest, source = some c :: rest → c.isDigit = false ∧ c ≠ '.' ∧ c ≠ 'e' ∧ c ≠ 'E'

/-- The digits behind the point, as they are written. -/
def fractionChars (digits : List Char) : List Char := if digits.isEmpty then [] else ['.'] ++ digits

/-- The exponent, as it is written. -/
def exponentChars (exponent : Option Exponent) : List Char := (exponent.map (·.chars)).getD []

/-- A number without its sign, as it is written. -/
def Number.unsigned (n : Number) : List Char :=
  n.whole ++ (fractionChars n.fraction ++ exponentChars n.exponent)

/-- The sign stands in front. -/
theorem Number.chars_eq (n : Number) :
    n.chars = (if n.negative then ['-'] else []) ++ n.unsigned := by
  simp [chars, unsigned, fractionChars, exponentChars]

/-- Digits are cut off up to the first character that is none. -/
theorem takeDigits_append {digits : List Char} (all : ∀ c ∈ digits, c.isDigit = true) {rest : Source}
    (ends : ∀ c rest', rest = some c :: rest' → c.isDigit = false) (read : List Char) :
    takeDigits read (digits.map some ++ rest) = (read.reverse ++ digits, rest) := by
  induction digits generalizing read with
  | nil =>
    match rest with
    | [] => simp [takeDigits]
    | none :: rest => simp [takeDigits]
    | some c :: rest => simp [takeDigits, ends c rest rfl]
  | cons c digits ih =>
    obtain ⟨digit, all⟩ := List.forall_mem_cons.mp all
    rw [List.map_cons, List.cons_append, takeDigits, if_pos digit, ih all, List.reverse_cons,
      List.append_assoc, List.singleton_append]

/-- The digits of an exponent are cut off. -/
theorem takeExponentDigits?_append {digits : List Char} (nonempty : digits ≠ [])
    (all : ∀ c ∈ digits, c.isDigit = true) {rest : Source} (ends : EndsNumber rest) (negative : Bool) :
    takeExponentDigits? negative (digits.map some ++ rest) = some (some ⟨negative, digits⟩, rest) := by
  have cut := takeDigits_append all (fun c rest' same => (ends c rest' same).1) []
  simp [takeExponentDigits?, cut, nonempty]

/-- An exponent, or none, is cut off. -/
theorem takeExponent?_append {exponent : Option Exponent}
    (valid : ∀ e ∈ exponent, e.digits ≠ [] ∧ ∀ c ∈ e.digits, c.isDigit = true) {rest : Source}
    (ends : EndsNumber rest) :
    takeExponent? ((exponentChars exponent).map some ++ rest) = some (exponent, rest) := by
  match exponent with
  | none =>
    match rest with
    | [] => rfl
    | none :: rest => rfl
    | some c :: rest =>
      obtain ⟨-, -, lower, upper⟩ := ends c rest rfl
      simp [exponentChars, takeExponent?, lower, upper]
  | some ⟨negative, digits⟩ =>
    obtain ⟨nonempty, all⟩ := valid _ rfl
    have cut := takeExponentDigits?_append nonempty all ends negative
    cases negative <;> simpa [exponentChars, Exponent.chars, takeExponent?] using cut

/-- Behind the digits of a number, an exponent or the end comes neither a digit nor a point. -/
theorem ends_exponentChars (exponent : Option Exponent) {rest : Source} (ends : EndsNumber rest)
    (c : Char) (rest' : Source)
    (front : (exponentChars exponent).map some ++ rest = some c :: rest') :
    c.isDigit = false ∧ c ≠ '.' := by
  match exponent with
  | none => exact ⟨(ends c rest' front).1, (ends c rest' front).2.1⟩
  | some e =>
    obtain ⟨rfl, -⟩ : 'e' = c ∧ _ := by simpa [exponentChars, Exponent.chars] using front
    decide

/-- The digits behind a point, or none, are cut off. -/
theorem takeFraction?_append {fraction : List Char} (all : ∀ c ∈ fraction, c.isDigit = true)
    {rest : Source} (ends : ∀ c rest', rest = some c :: rest' → c.isDigit = false ∧ c ≠ '.') :
    takeFraction? ((fractionChars fraction).map some ++ rest) = some (fraction, rest) := by
  match fraction with
  | [] =>
    match rest with
    | [] => rfl
    | none :: rest => rfl
    | some c :: rest =>
      have point : c ≠ '.' := (ends c rest rfl).2
      simp [fractionChars, takeFraction?, point]
  | d :: digits =>
    have cut := takeDigits_append all (fun c rest' same => (ends c rest' same).1) []
    rw [List.map_cons, List.cons_append] at cut
    simp [fractionChars, takeFraction?, cut]

/-- Behind the digits in front of the point there is no digit. -/
theorem ends_fractionChars (fraction : List Char) {rest : Source}
    (ends : ∀ c rest', rest = some c :: rest' → c.isDigit = false ∧ c ≠ '.') (c : Char)
    (rest' : Source) (front : (fractionChars fraction).map some ++ rest = some c :: rest') :
    c.isDigit = false := by
  match fraction with
  | [] => exact (ends c rest' front).1
  | d :: digits =>
    obtain ⟨rfl, -⟩ : '.' = c ∧ _ := by simpa [fractionChars] using front
    decide

/-- **The digits of a number are cut off as the number**, if what follows does not go on with it. -/
theorem takeNumber?_unsigned {n : Number} (valid : n.WellFormed) {rest : Source}
    (ends : EndsNumber rest) :
    takeNumber? n.negative (n.unsigned.map some ++ rest) = some (.number n, rest) := by
  have exponent := takeExponent?_append valid.exponentDigits ends
  have behind := ends_exponentChars n.exponent ends
  have fraction := takeFraction?_append valid.fractionDigits behind
  have whole := takeDigits_append valid.wholeDigits (ends_fractionChars n.fraction behind) []
  rw [Number.unsigned, List.map_append, List.map_append, List.append_assoc, List.append_assoc,
    takeNumber?, whole]
  simp [valid.whole, fraction, exponent]

/-- A digit begins a number. -/
theorem token?_digit {c : Char} (digit : c.isDigit = true) (rest : Source) :
    token? c rest = takeNumber? false (some c :: rest) := by
  unfold token?
  split
  -- no digit is one of the characters that begin another token
  all_goals first | rfl | exact absurd digit (by decide)

/-! ## Texts -/

/-- Whether a character is written by its number: control characters are, but for those that have a
letter. -/
def isNumbered (c : Char) : Bool :=
  c.toNat < 0x20 && !(['\x08', '\t', '\n', '\x0c', '\r'].contains c)

/-- What a written character is read as, before the pieces are put together. -/
def pieceOf (c : Char) : Piece := if isNumbered c then .unit c.toNat else .char c

/-- Control characters are read as their pieces. -/
theorem takePieces_escapeControl {c : Char} (control : c.toNat < 0x20) (read : List Piece)
    (rest : Source) :
    takePieces read ((escapeControl c).map some ++ rest) = takePieces (pieceOf c :: read) rest := by
  have back : Char.ofNat c.toNat = c := Char.ofNat_toNat c
  generalize c.toNat = n at control back
  subst back
  interval_cases n <;> rfl

/-- A closing quote ends the pieces. -/
theorem takePieces_quote (read : List Piece) (rest : Source) :
    takePieces read (some '"' :: rest) = some (read.reverse, rest) := by
  rw [takePieces.eq_def]
  rfl

/-- A character that needs no escape is read as itself. -/
theorem takePieces_plain {c : Char} (quotes : c ≠ '"') (backslash : c ≠ '\\')
    (control : ¬c.toNat < 0x20) (read : List Piece) (rest : Source) :
    takePieces read (some c :: rest) = takePieces (.char c :: read) rest := by
  rw [takePieces.eq_def]
  dsimp only
  rw [if_neg quotes, if_neg backslash, if_neg control]

/-- A written character is read as its piece. -/
theorem takePieces_escape (c : Char) (read : List Piece) (rest : Source) :
    takePieces read ((escape c).map some ++ rest) = takePieces (pieceOf c :: read) rest := by
  rw [escape]
  by_cases quotes : c = '"'
  · subst quotes
    rfl
  by_cases backslash : c = '\\'
  · subst backslash
    rfl
  rw [if_neg quotes, if_neg backslash]
  by_cases control : c.toNat < 0x20
  · rw [if_pos control]
    exact takePieces_escapeControl control read rest
  · have piece : pieceOf c = .char c := by simp [pieceOf, isNumbered, control]
    rw [if_neg control, List.map_singleton, List.singleton_append, piece]
    exact takePieces_plain quotes backslash control read rest

/-- Written characters are read as their pieces, up to the closing quote. -/
theorem takePieces_flatMap_escape (cs : List Char) (read : List Piece) (rest : Source) :
    takePieces read ((cs.flatMap escape).map some ++ some '"' :: rest)
      = some (read.reverse ++ cs.map pieceOf, rest) := by
  induction cs generalizing read with
  | nil => simp [takePieces_quote]
  | cons c cs ih =>
    rw [List.flatMap_cons, List.map_append, List.append_assoc, takePieces_escape, ih,
      List.reverse_cons, List.append_assoc, List.map_cons, List.singleton_append]

/-- The pieces of characters stand for them. -/
theorem textOf?_map_pieceOf (cs read : List Char) :
    textOf? read (cs.map pieceOf) = some (read.reverse ++ cs) := by
  induction cs generalizing read with
  | nil => simp [textOf?]
  | cons c cs ih =>
    have next : textOf? read (pieceOf c :: cs.map pieceOf) = textOf? (c :: read) (cs.map pieceOf) := by
      rw [pieceOf]
      split
      · next numbered =>
        -- a control character is no half of a pair
        have control : c.toNat < 0x20 := by
          rw [isNumbered, Bool.and_eq_true, decide_eq_true_eq] at numbered
          exact numbered.1
        have leading : isLeading c.toNat = false := by simp [isLeading]; omega
        have trailing : isTrailing c.toNat = false := by simp [isTrailing]; omega
        rw [textOf?.eq_def]
        simp [leading, trailing, Char.ofNat_toNat]
      · rw [textOf?]
    rw [List.map_cons, next, ih, List.reverse_cons, List.append_assoc, List.singleton_append]

/-- **A text between quotes is cut off as the text.** -/
theorem takeText?_quote (s : String) (rest : Source) :
    takeText? ((s.toList.flatMap escape).map some ++ some '"' :: rest) = some (.text s, rest) := by
  simp [takeText?, takePieces_flatMap_escape, textOf?_map_pieceOf]

/-! ## Tokens -/

/-- A token that is written as it is: its text is a sequence of characters, its number by the
grammar. -/
def Token.WellFormed : Token → Prop
  | .number n => n.WellFormed
  | .text s => s.isSome = true
  | _ => True

/-- What stands behind a token does not go on with it. -/
def Token.Ends (t : Token) (rest : Source) : Prop := ∀ n, t = .number n → EndsNumber rest

/-- A digit is no blank. -/
theorem isBlank_of_isDigit {c : Char} (digit : c.isDigit = true) : isBlank c = false := by
  rw [isBlank]
  by_contra blank
  simp only [Bool.not_eq_false, Bool.or_eq_true, decide_eq_true_eq] at blank
  rcases blank with ((rfl | rfl) | rfl) | rfl <;> exact absurd digit (by decide)

/-- A number begins with its sign or with a digit and is cut off as the number. -/
theorem Number.token?_chars {n : Number} (valid : n.WellFormed) {rest : Source}
    (ends : EndsNumber rest) :
    ∃ c cs, n.chars = c :: cs ∧ isBlank c = false ∧
      token? c (cs.map some ++ rest) = some (.number n, rest) := by
  have cut := takeNumber?_unsigned valid ends
  rw [n.chars_eq]
  cases sign : n.negative with
  | true =>
    rw [sign] at cut
    exact ⟨'-', n.unsigned, rfl, by decide, cut⟩
  | false =>
    rw [sign] at cut
    have nonempty : n.whole ≠ [] := by
      intro empty
      have whole := valid.whole
      rw [empty] at whole
      cases whole
    obtain ⟨c, digits, whole⟩ := List.exists_cons_of_ne_nil nonempty
    have digit : c.isDigit = true := valid.wholeDigits c (whole ▸ List.mem_cons_self)
    have written :
        n.unsigned = c :: (digits ++ (fractionChars n.fraction ++ exponentChars n.exponent)) := by
      rw [unsigned, whole, List.cons_append]
    refine ⟨c, _, written, isBlank_of_isDigit digit, ?_⟩
    rw [token?_digit digit, ← cut, written, List.map_cons, List.cons_append]

/-- **The characters of a token are cut off as the token**, if what follows does not go on with it. They
begin with no blank. -/
theorem token?_chars {t : Token} (valid : t.WellFormed) {rest : Source} (ends : t.Ends rest) :
    ∃ c cs, t.chars = c :: cs ∧ isBlank c = false ∧ token? c (cs.map some ++ rest) = some (t, rest) := by
  match t with
  | .openArray | .closeArray | .openObject | .closeObject | .comma | .colon | .null | .bool true
  | .bool false => exact ⟨_, _, rfl, by decide, rfl⟩
  | .number n => exact Number.token?_chars valid (ends n rfl)
  | .text (some s) =>
    refine ⟨'"', s.toList.flatMap escape ++ ['"'], rfl, by decide, ?_⟩
    rw [List.map_append, List.append_assoc]
    exact takeText?_quote s rest

end Json

end ComputePlanner
