import ComputePlanner.Bytes.Word
import ComputePlanner.Json.Basic

/-! # Taking values apart
Readers of typed values out of JSON. A structure is written as an object, or as an array of its
fields in order; an enumeration by a name, or by an object that has the name as its only key, with
`null` under it. Numbers count as integers only if they are written as such: no point, no exponent,
and no sign on a zero.

Main definitions: **`Json.Fields`**, the fields of a structure, with **`Json.Fields.required`** and
**`Json.Fields.optional`**, and the readers of single values. -/

namespace ComputePlanner

namespace Json

/-! ## Single values -/

/-- The number that decimal digits stand for. -/
def digitsValue (digits : List Char) : Nat :=
  digits.foldl (fun n c => n * 10 + (c.toNat - 48)) 0

namespace Number

/-- The most digits of an integer that fits 64 bits. -/
def maxDigits : Nat := 20

/-- The absolute value of a number that is written as an integer of a size that readers accept. -/
def magnitude? (n : Number) : Option Nat :=
  if n.fraction.isEmpty && n.exponent.isNone && n.whole.length ≤ maxDigits then
    some (digitsValue n.whole)
  else none

/-- A number that is written as a natural one. -/
def nat? (n : Number) : Option Nat := if n.negative then none else n.magnitude?

/-- A number that is written as a whole one. A negative zero is none. -/
def int? (n : Number) : Option Int :=
  match n.magnitude? with
  | some m => if n.negative then (if m = 0 then none else some (-m)) else some m
  | none => none

end Number

/-- A flag. -/
def bool? : Json → Option Bool
  | .bool b => some b
  | _ => none

/-- A text that is a sequence of characters. -/
def text? : Json → Option String
  | .text s => s
  | _ => none

/-- A natural number. -/
def nat? : Json → Option Nat
  | .number n => n.nat?
  | _ => none

/-- A 32-bit word. -/
def word32? (j : Json) : Option UInt32 := j.nat?.bind fit32?

/-- A 64-bit word. -/
def word64? (j : Json) : Option UInt64 := j.nat?.bind fit64?

/-- A signed 32-bit number. -/
def int32? : Json → Option Int32
  | .number n => do
    let v ← n.int?
    if Int32.minValue.toInt ≤ v ∧ v ≤ Int32.maxValue.toInt then some (Int32.ofInt v) else none
  | _ => none

/-- A list, given the reader of its items. -/
def list? {α : Type} (item : Json → Option α) : Json → Option (List α)
  | .array items => items.mapM item
  | _ => none

/-- A value that may be `null`. -/
def orNull? {α : Type} (value : Json → Option α) : Json → Option (Option α)
  | .null => some none
  | j => (value j).map some

/-- One of the values that have a name in `table`. -/
def oneOf? {α : Type} (table : List (String × α)) : Json → Option α
  | .text (some s) => table.lookup s
  | .object [⟨some s, .null⟩] => table.lookup s
  | _ => none

/-! ## Structures -/

/-- The fields of a structure that are there. -/
structure Fields where
  /-- Names and values, no name twice. -/
  entries : List (String × Json)

/-- What becomes of a key that is no field's name. -/
inductive UnknownKeys
  | refused
  | ignored
  deriving DecidableEq, Repr

/-- Adds the fields among members to those in `entries`, newest first. Every key must be a text, and
no field may come twice. -/
def collectFields (names : List String) (unknown : UnknownKeys) (entries : List (String × Json)) :
    List Member → Option (List (String × Json))
  | [] => some entries.reverse
  | ⟨none, _⟩ :: _ => none
  | ⟨some key, value⟩ :: members =>
    if names.contains key then
      if (entries.lookup key).isSome then none
      else collectFields names unknown ((key, value) :: entries) members
    else if unknown = .refused then none
    else collectFields names unknown entries members

/-- The fields of a structure whose fields are called `names`. In an array the last ones may be
absent. -/
def fields? (names : List String) (unknown : UnknownKeys) : Json → Option Fields
  | .object members => (collectFields names unknown [] members).map (⟨·⟩)
  | .array items => if items.length ≤ names.length then some ⟨names.zip items⟩ else none
  | _ => none

namespace Fields

/-- A field that must be there. -/
def required {α : Type} (f : Fields) (name : String) (value : Json → Option α) : Option α :=
  (f.entries.lookup name).bind value

/-- A field that has a default. -/
def optional {α : Type} (f : Fields) (name : String) (value : Json → Option α) (default : α) :
    Option α :=
  match f.entries.lookup name with
  | some j => value j
  | none => some default

end Fields

end Json

end ComputePlanner
