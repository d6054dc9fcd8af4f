import Formwork.Decimal.Literal
import Formwork.Expr.Error

/-!
# Reading tokens

`Token.scan` cuts an expression into its tokens. Blanks separate tokens and are otherwise ignored;
of the operators that fit, the longest one is read. After a dot that follows a path segment, digits
are a field name.
-/

namespace Formwork

namespace Token

/-- The token of a text without its quotes, and how many characters it has with them. -/
def readString (quote : Char) : List Char → Option (String × Nat)
  | [] => none
  | '\\' :: [] => none
  | '\\' :: c :: rest =>
    let meant := if c = 'n' then '\n' else if c = 't' then '\t' else if c = 'r' then '\r' else c
    (readString quote rest).map fun (text, width) => (String.singleton meant ++ text, width + 2)
  | c :: rest =>
    if c = quote then some ("", 2)
    else (readString quote rest).map fun (text, width) => (String.singleton c ++ text, width + 1)

/-- The characters of a number: digits with at most one dot, which a digit must follow. -/
def numeral (dotted : Bool) : List Char → List Char
  | '.' :: d :: rest =>
    if !dotted && d.isDigit then '.' :: d :: numeral true rest else []
  | c :: rest => if c.isDigit then c :: numeral dotted rest else []
  | [] => []

/-- Whether an identifier can start with a character. -/
def startsIdent (c : Char) : Bool := Text.isAlphabetic c || c = '_' || c = '$'

/-- Whether an identifier can go on with a character. -/
def continuesIdent (c : Char) : Bool := Text.isAlphanumeric c || c = '_' || c = '$'

/-- The operator or bracket that a text starts with, and its width. -/
def symbol? : List Char → Option (Token × Nat)
  | '(' :: _ => some (.leftParen, 1)
  | ')' :: _ => some (.rightParen, 1)
  | '[' :: _ => some (.leftBracket, 1)
  | ']' :: _ => some (.rightBracket, 1)
  | ',' :: _ => some (.comma, 1)
  | ':' :: _ => some (.colon, 1)
  | '+' :: _ => some (.plus, 1)
  | '-' :: _ => some (.minus, 1)
  | '*' :: _ => some (.star, 1)
  | '/' :: _ => some (.slash, 1)
  | '%' :: _ => some (.percent, 1)
  | '?' :: '?' :: _ => some (.nullish, 2)
  | '?' :: _ => some (.question, 1)
  | '!' :: '=' :: '=' :: _ => some (.strictNotEq, 3)
  | '!' :: '=' :: _ => some (.notEq, 2)
  | '!' :: _ => some (.bang, 1)
  | '=' :: '=' :: '=' :: _ => some (.strictEq, 3)
  | '=' :: '=' :: _ => some (.eqEq, 2)
  | '<' :: '=' :: _ => some (.le, 2)
  | '<' :: _ => some (.lt, 1)
  | '>' :: '=' :: _ => some (.ge, 2)
  | '>' :: _ => some (.gt, 1)
  | '&' :: '&' :: _ => some (.andAnd, 2)
  | '|' :: '|' :: _ => some (.orOr, 2)
  | _ => none

/-- The token that the text `c :: rest` starts with, and how many characters of `rest` belong to it.
The token before it decides how dots and digits are read. -/
def next (previous : Option Token) (c : Char) (rest : List Char) :
    Except ParseFault (Token × Nat) :=
  let afterSegment := previous.any endsSegment
  let afterDot := previous == some .dot
  let digitFollows := (rest.head?.map Char.isDigit).getD false
  if c = '.' && (afterSegment || !digitFollows) then .ok (.dot, 0)
  else if c = '\'' || c = '"' then
    match readString c rest with
    | some (text, width) => .ok (.str text, width - 1)
    | none => .error .unterminatedString
  else if c.isDigit && afterDot then
    let digits := rest.takeWhile Char.isDigit
    .ok (.ident (String.ofList (c :: digits)), digits.length)
  else if c.isDigit || c = '.' then
    let text := numeral false (c :: rest)
    let value := (Decimal.readMagnitude? text).getD 0.0
    .ok (.number value, text.length - 1)
  else if startsIdent c then
    let name := rest.takeWhile continuesIdent
    .ok (.ident (String.ofList (c :: name)), name.length)
  else
    match symbol? (c :: rest) with
    | some (token, width) => .ok (token, width - 1)
    | none =>
      if c = '=' then
        .error (if rest.head? = some '>' then .arrowFunction else .assignment)
      else if c = '{' || c = '}' then .error .objectLiteral
      else .error (.unexpectedCharacter c)

/-- The number of bytes that some characters take. -/
def byteCount (text : List Char) : Nat := text.foldr (fun c bytes => c.utf8Size + bytes) 0

/-- The tokens of a text that starts at an offset, after a token. -/
def scanFrom (previous : Option Token) (position : Nat) :
    List Char → Except ParseError (List Placed)
  | [] => .ok []
  | c :: rest =>
    if Text.isBlank c then scanFrom previous (position + c.utf8Size) rest
    else
      match next previous c rest with
      | .error fault => .error ⟨position, fault⟩
      | .ok (token, width) =>
        let after := position + c.utf8Size + byteCount (rest.take width)
        match scanFrom (some token) after (rest.drop width) with
        | .error error => .error error
        | .ok tokens => .ok (⟨token, position⟩ :: tokens)
termination_by text => text.length
decreasing_by all_goals (simp only [List.length_drop, List.length_cons]; omega)

/-- The tokens of an expression. -/
def scan (source : String) : Except ParseError (List Placed) := scanFrom none 0 source.toList

end Token

end Formwork
