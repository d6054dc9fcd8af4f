import Formwork.Json.Basic

/-!
# JSON texts of values

`compact` writes a value without blanks, `pretty` with one item or field a line, indented by two
blanks a level.
-/

namespace Formwork.Json

/-- A hexadecimal digit in lower case. -/
def hexDigit (n : Nat) : Char := (Nat.toDigits 16 n).headD '0'

/-- How a character is written inside a string: the quote, the backslash and the characters below
U+0020 are escaped. -/
def escapeChar (c : Char) : List Char :=
  match c with
  | '"' => ['\\', '"']
  | '\\' => ['\\', '\\']
  | '\x08' => ['\\', 'b']
  | '\x0c' => ['\\', 'f']
  | '\n' => ['\\', 'n']
  | '\r' => ['\\', 'r']
  | '\t' => ['\\', 't']
  | c =>
    if c.toNat < 0x20 then ['\\', 'u', '0', '0', hexDigit (c.toNat / 16), hexDigit (c.toNat % 16)]
    else [c]

/-- A string with its quotes. -/
def quoted (text : String) : String :=
  "\"" ++ String.ofList (text.toList.flatMap escapeChar) ++ "\""

mutual

/-- The text of a value without blanks. -/
def compact : Json → String
  | .null => "null"
  | .bool value => if value then "true" else "false"
  | .num value => value.toText
  | .str value => quoted value
  | .arr items => "[" ++ compactItems items ++ "]"
  | .obj fields => "\x7b" ++ compactFields fields ++ "\x7d"

def compactItems : List Json → String
  | [] => ""
  | [item] => compact item
  | item :: rest => compact item ++ "," ++ compactItems rest

def compactFields : List (String × Json) → String
  | [] => ""
  | [(name, value)] => quoted name ++ ":" ++ compact value
  | (name, value) :: rest => quoted name ++ ":" ++ compact value ++ "," ++ compactFields rest

end

/-- A line end and the indentation of a level. -/
def newline (level : Nat) : String := "\n" ++ String.ofList (List.replicate (2 * level) ' ')

mutual

/-- The text of a value at a level of indentation. -/
def prettyAt (level : Nat) : Json → String
  | .null => "null"
  | .bool value => if value then "true" else "false"
  | .num value => value.toText
  | .str value => quoted value
  | .arr [] => "[]"
  | .arr (item :: rest) =>
    "[" ++ newline (level + 1) ++ prettyAt (level + 1) item ++ prettyItems (level + 1) rest ++
      newline level ++ "]"
  | .obj [] => "\x7b\x7d"
  | .obj ((name, value) :: rest) =>
    "\x7b" ++ newline (level + 1) ++ quoted name ++ ": " ++ prettyAt (level + 1) value ++
      prettyFields (level + 1) rest ++ newline level ++ "\x7d"

def prettyItems (level : Nat) : List Json → String
  | [] => ""
  | item :: rest => "," ++ newline level ++ prettyAt level item ++ prettyItems level rest

def prettyFields (level : Nat) : List (String × Json) → String
  | [] => ""
  | (name, value) :: rest =>
    "," ++ newline level ++ quoted name ++ ": " ++ prettyAt level value ++ prettyFields level rest

end

/-- The text of a value over several lines. -/
def pretty (value : Json) : String := prettyAt 0 value

end Formwork.Json
