import Formwork.Text.Property

/-!
# Quoted texts

A text between double quotes as messages show it: quotes, backslashes and characters without a
visible form of their own are escaped.
-/

namespace Formwork.Text

/-- A number in lower-case hexadecimal digits. -/
def hexDigits (n : Nat) : String := String.ofList (Nat.toDigits 16 n)

/-- How a character is shown between double quotes. -/
def showChar (c : Char) : String :=
  if c = '"' then "\\\""
  else if c = '\\' then "\\\\"
  else if c = '\t' then "\\t"
  else if c = '\n' then "\\n"
  else if c = '\r' then "\\r"
  else if c.toNat = 0 then "\\0"
  else if isPrintable c && !isCombining c then String.singleton c
  else "\\u\x7b" ++ hexDigits c.toNat ++ "\x7d"

/-- A text between double quotes. -/
def quote (text : String) : String :=
  "\"" ++ String.join (text.toList.map showChar) ++ "\""

end Formwork.Text
