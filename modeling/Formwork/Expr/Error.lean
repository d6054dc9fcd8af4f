import Formwork.Expr.Token

/-!
# Failures of expressions

Why an expression does not parse (`ParseError`) or does not yield a value (`ExprError`).
-/

namespace Formwork

/-- The tokens that the grammar asks for by themselves. -/
inductive Expected where
  | colon
  | rightBracket
  | rightParen
  | comma
deriving Repr, DecidableEq

def Expected.describe : Expected → String
  | .colon => "':' in conditional"
  | .rightBracket => "']'"
  | .rightParen => "')'"
  | .comma => "',' between arguments"

/-- The deepest nesting of an expression; each operator of a chain is one level. -/
def maxNesting : Nat := 256

/-- The largest number of items in an array literal. -/
def maxArrayLiteral : Nat := 256

/-- What is wrong with an expression. Where a token was found, `none` is the end. -/
inductive ParseFault where
  | unexpectedCharacter (found : Char)
  | unterminatedString
  | assignment
  | arrowFunction
  | objectLiteral
  | trailingToken (found : Option Token)
  | expected (wanted : Expected) (found : Option Token)
  | expectedField (found : Option Token)
  | unexpectedToken (found : Option Token)
  | notHelper
  | reserved (word : String)
  | unknownHelper (word : String)
  | arity (word : String) (least greatest given : Nat)
  | unknownIdentifier (word : String)
  | memberAccess
  | longArray
  | nesting
deriving DecidableEq

def ParseFault.message : ParseFault → String
  | .unexpectedCharacter c => "unexpected character '" ++ String.singleton c ++ "'"
  | .unterminatedString => "unterminated string literal"
  | .assignment => "assignment is not allowed"
  | .arrowFunction => "arrow functions are not allowed"
  | .objectLiteral => "object literals are not allowed"
  | .trailingToken found => "unexpected trailing token " ++ Token.describe? found
  | .expected wanted found =>
    "expected " ++ wanted.describe ++ ", found " ++ Token.describe? found
  | .expectedField found => "expected field name after '.', found " ++ Token.describe? found
  | .unexpectedToken found => "unexpected token " ++ Token.describe? found
  | .notHelper => "only built-in helpers can be called"
  | .reserved word => "'" ++ word ++ "' is not allowed in rule expressions"
  | .unknownHelper word => "unknown helper '" ++ word ++ "'"
  | .arity word least greatest given =>
    "helper '" ++ word ++ "' takes " ++ toString least ++ "..=" ++ toString greatest ++
      " arguments, got " ++ toString given
  | .unknownIdentifier word =>
    "unknown identifier '" ++ word ++ "'; expected data, user or task"
  | .memberAccess => "property access is only allowed on data, user or task paths"
  | .longArray => "array literal longer than " ++ toString maxArrayLiteral ++ " elements"
  | .nesting => "expression nested deeper than " ++ toString maxNesting ++ " levels"

/-- A fault and the offset of the byte where it lies. -/
structure ParseError where
  position : Nat
  fault : ParseFault
deriving DecidableEq

/-- Why an expression does not yield a value. -/
inductive ExprError where
  | parse (error : ParseError)
  | stepLimit (maxSteps : Nat)
  | timeout (milliseconds : Nat)
  | memoryLimit (maxBytes : Nat)
  | divisionByZero
deriving DecidableEq

/-- A time in the largest unit that it reaches, with the thousandths of a second after a point and no
zeros at their end. -/
def showDuration (milliseconds : Nat) : String :=
  let seconds := milliseconds / 1000
  let thousandths := milliseconds % 1000
  if milliseconds = 0 then "0ns"
  else if seconds = 0 then toString thousandths ++ "ms"
  else
    let digits := (toString (1000 + thousandths)).toList.tail
    let digits := (digits.reverse.dropWhile (· == '0')).reverse
    let fraction := if digits.isEmpty then "" else "." ++ String.ofList digits
    toString seconds ++ fraction ++ "s"

def ExprError.message : ExprError → String
  | .parse error => "parse error at " ++ toString error.position ++ ": " ++ error.fault.message
  | .stepLimit steps => "step budget of " ++ toString steps ++ " exceeded"
  | .timeout milliseconds => "time budget of " ++ showDuration milliseconds ++ " exceeded"
  | .memoryLimit bytes => "memory budget of " ++ toString bytes ++ " bytes exceeded"
  | .divisionByZero => "type error: division by zero"

end Formwork
