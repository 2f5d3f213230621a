import ComputePlanner.Text.Hidden
import ComputePlanner.Text.Numeral

/-! # Quoted text
Messages show a name between double quotes, so that an empty or unprintable one can be told apart.
Quotes and backslashes are escaped, and so is every character that would not show: the usual ones
by a letter, the others by their number. -/

namespace ComputePlanner

/-- A character inside quotes. -/
def quotedChar (c : Char) : String :=
  if c = '"' then "\\\""
  else if c = '\\' then "\\\\"
  else if c = '\t' then "\\t"
  else if c = '\r' then "\\r"
  else if c = '\n' then "\\n"
  else if c.toNat = 0 then "\\0"
  else if isHidden c then "\\u\x7b" ++ hexDigits c.toNat ++ "\x7d"
  else c.toString

/-- A text between double quotes. -/
def quoted (s : String) : String := "\"" ++ String.join (s.toList.map quotedChar) ++ "\""

end ComputePlanner
