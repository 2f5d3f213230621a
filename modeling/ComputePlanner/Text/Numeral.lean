/-! # Numbers and columns in text
Listings print addresses and masks in lower-case hexadecimal, some with leading zeros, and line
their columns up with spaces. -/

namespace ComputePlanner

/-- A text followed by spaces up to `width` characters. -/
def padRight (width : Nat) (s : String) : String :=
  s ++ String.ofList (List.replicate (width - s.length) ' ')

/-- A text behind copies of `fill` up to `width` characters. -/
def padLeft (width : Nat) (fill : Char) (s : String) : String :=
  String.ofList (List.replicate (width - s.length) fill) ++ s

/-- Lower-case hexadecimal digits. -/
def hexDigits (n : Nat) : String := String.ofList (Nat.toDigits 16 n)

/-- A number in hexadecimal behind `0x`. -/
def hex (n : Nat) : String := "0x" ++ hexDigits n

/-- A mask: hexadecimal with at least four digits behind `0x`. -/
def hexMask (n : Nat) : String := "0x" ++ padLeft 4 '0' (hexDigits n)

/-- A list between brackets. -/
def bracketed (items : List String) : String := "[" ++ ", ".intercalate items ++ "]"

end ComputePlanner
