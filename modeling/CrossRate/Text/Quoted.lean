import CrossRate.Text.CodeRange
import CrossRate.Text.HiddenTable

/-!
# Quoted text

`quoted` shows a text in double quotes on one line: quotes and backslashes are escaped, and
so is every character that would not be seen.
-/

namespace CrossRate.Text

/-- A number in hexadecimal digits. -/
def hex (n : Nat) : String := String.ofList (Nat.toDigits 16 n)

/-- One character of a quoted text. -/
def quotedChar (c : Char) : String :=
  if c = '"' then "\\\""
  else if c = '\\' then "\\\\"
  else if c = '\t' then "\\t"
  else if c = '\n' then "\\n"
  else if c = '\r' then "\\r"
  else if c.toNat = 0 then "\\0"
  else if inRanges c.toNat hiddenRanges then "\\u\x7b" ++ hex c.toNat ++ "\x7d"
  else c.toString

/-- A text in double quotes. -/
def quoted (s : String) : String := "\"" ++ String.join (s.toList.map quotedChar) ++ "\""

end CrossRate.Text
