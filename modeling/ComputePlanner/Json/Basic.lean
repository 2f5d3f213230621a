/-! # JSON values
Configurations and network descriptors are JSON. A value is kept as it is written: a number by its
digits, since a reader may want it exact or rounded, and a text that is no sequence of characters as
`none`, since only a reader that wants the text has to refuse it.

Main definitions: **`Json`** with its members and numbers, and **`Json.ofNat`** and its companions
for building values. -/

namespace ComputePlanner

namespace Json

/-- The exponent of a number. -/
structure Exponent where
  negative : Bool
  /-- Its decimal digits, at least one. -/
  digits : List Char
  deriving DecidableEq, Repr

/-- A number by its digits. -/
structure Number where
  negative : Bool := false
  /-- The digits in front of the point, at least one, without leading zeros. -/
  whole : List Char
  /-- The digits behind the point; without any there is no point. -/
  fraction : List Char := []
  /-- The power of ten it is multiplied with. -/
  exponent : Option Exponent := none
  deriving DecidableEq, Repr

end Json

mutual

/-- A JSON value. -/
inductive Json
  | null
  | bool (b : Bool)
  | number (n : Json.Number)
  /-- A text, if it is a sequence of characters. -/
  | text (s : Option String)
  | array (items : List Json)
  | object (members : List Json.Member)

/-- A value under a key. A key may occur more than once. -/
structure Json.Member where
  /-- The key, if it is a sequence of characters. -/
  key : Option String
  value : Json

end

namespace Json

/-- A natural number. -/
def ofNat (n : Nat) : Json := .number { whole := Nat.toDigits 10 n }

/-- A whole number. -/
def ofInt (n : Int) : Json :=
  .number { negative := n < 0, whole := Nat.toDigits 10 n.natAbs }

/-- A text. -/
def ofText (s : String) : Json := .text (some s)

/-- An array, given how its items are written. -/
def ofList {α : Type} (item : α → Json) (xs : List α) : Json := .array (xs.map item)

/-- An object, given its keys and values in order. -/
def ofFields (fields : List (String × Json)) : Json :=
  .object (fields.map fun f => ⟨some f.1, f.2⟩)

end Json

end ComputePlanner
