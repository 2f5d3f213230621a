import ComputePlanner.Json.Basic

/-! # The tokens of JSON text
Text is cut into tokens before its structure is read: brackets, separators, words, numbers and
texts, with blanks between them. Input is a list of characters in which `none` stands for a byte
that belongs to no character; inside a text such a byte only spoils the text.

Escapes name UTF-16 units, so two of them may make one character (`Json.textOf?`).

Main definition: **`Json.lex`**. -/

namespace ComputePlanner

namespace Json

/-- Characters to read, with `none` for stray bytes. -/
abbrev Source := List (Option Char)

/-- A token. -/
inductive Token
  | openArray
  | closeArray
  | openObject
  | closeObject
  | comma
  | colon
  | null
  | bool (b : Bool)
  | number (n : Number)
  | text (s : Option String)
  deriving DecidableEq, Repr

/-- Whether a character may stand between tokens. -/
def isBlank (c : Char) : Bool := c = ' ' || c = '\n' || c = '\r' || c = '\t'

/-! ## Texts -/

/-- A part of a text as it is written. -/
inductive Piece
  /-- A character, or an escape that stands for one. -/
  | char (c : Char)
  /-- An escaped UTF-16 unit. -/
  | unit (n : Nat)
  /-- A byte that belongs to no character. -/
  | stray
  deriving DecidableEq, Repr

/-- Whether a UTF-16 unit is the first of a pair. -/
def isLeading (n : Nat) : Bool := 0xD800 ≤ n && n ≤ 0xDBFF

/-- Whether a UTF-16 unit is the second of a pair. -/
def isTrailing (n : Nat) : Bool := 0xDC00 ≤ n && n ≤ 0xDFFF

/-- The character of a pair of UTF-16 units. -/
def pairChar (leading trailing : Nat) : Char :=
  Char.ofNat (0x10000 + (leading - 0xD800) * 0x400 + (trailing - 0xDC00))

/-- Adds the characters that pieces stand for to those in `read`, newest first: there are none for a
stray byte or for half a pair. -/
def textOf? (read : List Char) : List Piece → Option (List Char)
  | [] => some read.reverse
  | .char c :: rest => textOf? (c :: read) rest
  | .stray :: _ => none
  | .unit n :: rest =>
    if isLeading n then
      match rest with
      | .unit m :: rest => if isTrailing m then textOf? (pairChar n m :: read) rest else none
      | _ => none
    else if isTrailing n then none
    else textOf? (Char.ofNat n :: read) rest

/-- The value of a hexadecimal digit. -/
def hexValue? (c : Char) : Option Nat :=
  if '0' ≤ c ∧ c ≤ '9' then some (c.toNat - 48)
  else if 'a' ≤ c ∧ c ≤ 'f' then some (c.toNat - 87)
  else if 'A' ≤ c ∧ c ≤ 'F' then some (c.toNat - 55)
  else none

/-- The number that four hexadecimal digits stand for. -/
def hexUnit? (a b c d : Char) : Option Nat := do
  return (← hexValue? a) * 0x1000 + (← hexValue? b) * 0x100 + (← hexValue? c) * 0x10
    + (← hexValue? d)

/-- The character that a letter behind a backslash stands for. -/
def escaped? (c : Char) : Option Char :=
  match c with
  | '"' => some '"'
  | '\\' => some '\\'
  | '/' => some '/'
  | 'b' => some '\x08'
  | 'f' => some '\x0c'
  | 'n' => some '\n'
  | 'r' => some '\r'
  | 't' => some '\t'
  | _ => none

/-- The pieces up to the closing quote, behind those in `read`, newest first, and what follows the
quote. Control characters have to be escaped. -/
def takePieces (read : List Piece) : Source → Option (List Piece × Source)
  | [] => none
  | none :: rest => takePieces (.stray :: read) rest
  | some c :: rest =>
    if c = '"' then some (read.reverse, rest)
    else if c = '\\' then
      match rest with
      | some 'u' :: some h₃ :: some h₂ :: some h₁ :: some h₀ :: rest =>
        match hexUnit? h₃ h₂ h₁ h₀ with
        | some n => takePieces (.unit n :: read) rest
        | none => none
      | some e :: rest =>
        match escaped? e with
        | some c => takePieces (.char c :: read) rest
        | none => none
      | _ => none
    else if c.toNat < 0x20 then none
    else takePieces (.char c :: read) rest

/-- The text behind an opening quote, and what follows it. -/
def takeText? (source : Source) : Option (Token × Source) :=
  (takePieces [] source).map fun (pieces, rest) =>
    (.text ((textOf? [] pieces).map String.ofList), rest)

/-! ## Numbers -/

/-- The digits in front, behind those in `read`, newest first, and what follows them. -/
def takeDigits (read : List Char) : Source → List Char × Source
  | some c :: rest =>
    if c.isDigit then takeDigits (c :: read) rest else (read.reverse, some c :: rest)
  | rest => (read.reverse, rest)

/-- Whether digits can stand in front of the point: at least one, and no zero in front of
another. -/
def isWhole : List Char → Bool
  | [] => false
  | [_] => true
  | c :: _ => c != '0'

/-- The digits behind the point, if there is a point, and what follows them. -/
def takeFraction? : Source → Option (List Char × Source)
  | some '.' :: rest =>
    let (digits, rest) := takeDigits [] rest
    if digits.isEmpty then none else some (digits, rest)
  | rest => some ([], rest)

/-- The digits of an exponent whose sign was read, and what follows them. -/
def takeExponentDigits? (negative : Bool) (source : Source) : Option (Option Exponent × Source) :=
  let (digits, rest) := takeDigits [] source
  if digits.isEmpty then none else some (some ⟨negative, digits⟩, rest)

/-- The exponent, if there is one, and what follows it. -/
def takeExponent? : Source → Option (Option Exponent × Source)
  | some c :: rest =>
    if c = 'e' || c = 'E' then
      match rest with
      | some '+' :: rest => takeExponentDigits? false rest
      | some '-' :: rest => takeExponentDigits? true rest
      | rest => takeExponentDigits? false rest
    else some (none, some c :: rest)
  | rest => some (none, rest)

/-- The number in front, whose sign was read, and what follows it. -/
def takeNumber? (negative : Bool) (source : Source) : Option (Token × Source) := do
  let (whole, rest) := takeDigits [] source
  if isWhole whole then
    let (fraction, rest) ← takeFraction? rest
    let (exponent, rest) ← takeExponent? rest
    return (.number { negative, whole, fraction, exponent }, rest)
  else none

/-! ## Tokens -/

/-- What follows `letters` in `source`, if it starts with them. -/
def dropWord? : List Char → Source → Option Source
  | [], source => some source
  | c :: letters, some d :: source => if c = d then dropWord? letters source else none
  | _ :: _, _ => none

/-- The token that starts with `c`, and what follows it. -/
def token? (c : Char) (rest : Source) : Option (Token × Source) :=
  match c with
  | '[' => some (.openArray, rest)
  | ']' => some (.closeArray, rest)
  | '\x7b' => some (.openObject, rest)
  | '\x7d' => some (.closeObject, rest)
  | ',' => some (.comma, rest)
  | ':' => some (.colon, rest)
  | '"' => takeText? rest
  | 'n' => (dropWord? ['u', 'l', 'l'] rest).map (.null, ·)
  | 't' => (dropWord? ['r', 'u', 'e'] rest).map (.bool true, ·)
  | 'f' => (dropWord? ['a', 'l', 's', 'e'] rest).map (.bool false, ·)
  | '-' => takeNumber? true rest
  | _ => takeNumber? false (some c :: rest)

/-- Cuts at most `fuel` tokens and blanks off a source, and puts the tokens behind those in `read`,
newest first. -/
def lexWithin (read : List Token) : Nat → Source → Option (List Token)
  | _, [] => some read.reverse
  | 0, _ => none
  | _, none :: _ => none
  | fuel + 1, some c :: rest =>
    if isBlank c then lexWithin read fuel rest
    else
      match token? c rest with
      | some (t, rest) => lexWithin (t :: read) fuel rest
      | none => none

/-- The tokens of a source; each takes at least one character. -/
def lex (source : Source) : Option (List Token) := lexWithin [] source.length source

end Json

end ComputePlanner
