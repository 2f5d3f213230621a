import ComputePlanner.Bytes.Word
import ComputePlanner.Json.Token

/-! # Addresses on the command line
An address is a 64-bit number: decimal digits, or hexadecimal ones behind `0x`. One plus sign may
stand in front of the digits. -/

namespace ComputePlanner

/-- Why a text is no number. -/
inductive NumberFault
  | empty
  | notDigit
  | tooLarge
  deriving DecidableEq, Repr

/-- The wording of a fault of a number. -/
def NumberFault.message : NumberFault → String
  | empty => "cannot parse integer from empty string"
  | notDigit => "invalid digit found in string"
  | tooLarge => "number too large to fit in target type"

/-- A number with one more digit. -/
def appendDigit (base : Nat) (n : UInt64) (c : Char) : Except NumberFault UInt64 :=
  match Json.hexValue? c with
  | none => .error .notDigit
  | some d =>
    if base ≤ d then .error .notDigit
    else
      match fit64? (n.toNat * base + d) with
      | none => .error .tooLarge
      | some n => .ok n

/-- The number that characters stand for in a base. The first character that does not fit tells what
is wrong with it. -/
def readNumber (base : Nat) : List Char → Except NumberFault UInt64
  | [] => .error .empty
  | ['+'] => .error .notDigit
  | '+' :: digits => digits.foldlM (appendDigit base) 0
  | digits => digits.foldlM (appendDigit base) 0

/-- The address that a text stands for. -/
def readAddress (text : String) : Except NumberFault UInt64 :=
  match text.toList with
  | '0' :: 'x' :: digits => readNumber 16 digits
  | '0' :: 'X' :: digits => readNumber 16 digits
  | digits => readNumber 10 digits

end ComputePlanner
