import ComputePlanner.Json.Token
import ComputePlanner.Text.Numeral

/-! # Writing JSON
The compact form: no blanks, members in their order, and texts in which only quotes, backslashes and
control characters are escaped. A text that is no sequence of characters is written as an empty one.

Main definition: **`Json.render`**. -/

namespace ComputePlanner

namespace Json

/-- A control character behind a backslash. -/
def escapeControl (c : Char) : List Char :=
  match c.toNat with
  | 0x08 => ['\\', 'b']
  | 0x09 => ['\\', 't']
  | 0x0A => ['\\', 'n']
  | 0x0C => ['\\', 'f']
  | 0x0D => ['\\', 'r']
  | n => ['\\', 'u', '0', '0'] ++ (padLeft 2 '0' (hexDigits n)).toList

/-- A character of a text. -/
def escape (c : Char) : List Char :=
  if c = '"' then ['\\', '"']
  else if c = '\\' then ['\\', '\\']
  else if c.toNat < 0x20 then escapeControl c
  else [c]

/-- A text between quotes. -/
def quote (s : String) : List Char := ['"'] ++ s.toList.flatMap escape ++ ['"']

/-- An exponent; it always has a sign. -/
def Exponent.chars (e : Exponent) : List Char :=
  ['e', if e.negative then '-' else '+'] ++ e.digits

/-- A number. -/
def Number.chars (n : Number) : List Char :=
  (if n.negative then ['-'] else []) ++ n.whole
    ++ (if n.fraction.isEmpty then [] else ['.'] ++ n.fraction)
    ++ (n.exponent.map (·.chars)).getD []

/-- A token. -/
def Token.chars : Token → List Char
  | openArray => ['[']
  | closeArray => [']']
  | openObject => ['\x7b']
  | closeObject => ['\x7d']
  | comma => [',']
  | colon => [':']
  | null => ['n', 'u', 'l', 'l']
  | bool b => if b then ['t', 'r', 'u', 'e'] else ['f', 'a', 'l', 's', 'e']
  | number n => n.chars
  | text s => quote (s.getD "")

mutual

/-- The tokens of a value. -/
def tokens : Json → List Token
  | .null => [.null]
  | .bool b => [.bool b]
  | .number n => [.number n]
  | .text s => [.text s]
  | .array items => .openArray :: (itemTokens false items ++ [.closeArray])
  | .object members => .openObject :: (memberTokens false members ++ [.closeObject])

/-- The tokens of items, with a comma in front of each but the first. -/
def itemTokens (comma : Bool) : List Json → List Token
  | [] => []
  | item :: items => (if comma then [.comma] else []) ++ item.tokens ++ itemTokens true items

/-- The tokens of members, with a comma in front of each but the first. -/
def memberTokens (comma : Bool) : List Member → List Token
  | [] => []
  | ⟨key, value⟩ :: members =>
    (if comma then [.comma] else []) ++ [.text key, .colon] ++ value.tokens
      ++ memberTokens true members

end

/-- The written form of a value. -/
def render (j : Json) : String := String.ofList (j.tokens.flatMap Token.chars)

end Json

end ComputePlanner
