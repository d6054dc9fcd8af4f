import Formwork.Decimal.Shortest
import Formwork.Text.Quoted

/-!
# Tokens of rule expressions

The words that an expression consists of, and how messages show them.
-/

namespace Formwork

inductive Token where
  | number (value : Float)
  | str (text : String)
  | ident (name : String)
  | leftParen
  | rightParen
  | leftBracket
  | rightBracket
  | comma
  | dot
  | question
  | colon
  | bang
  | plus
  | minus
  | star
  | slash
  | percent
  | eqEq
  | notEq
  | strictEq
  | strictNotEq
  | lt
  | le
  | gt
  | ge
  | andAnd
  | orOr
  | nullish
deriving DecidableEq

namespace Token

/-- Messages write the numbers from 0.0001 up to 10¹⁶ without an exponent, and the greater one of
two shortest decimals that are equally near. -/
def floatStyle : Decimal.FloatStyle := ⟨-4, 15, "", .up⟩

/-- How messages show a token. -/
def describe : Token → String
  | .number value => "Number(" ++ floatStyle.write value ++ ")"
  | .str text => "Str(" ++ Text.quote text ++ ")"
  | .ident name => "Ident(" ++ Text.quote name ++ ")"
  | .leftParen => "LParen"
  | .rightParen => "RParen"
  | .leftBracket => "LBracket"
  | .rightBracket => "RBracket"
  | .comma => "Comma"
  | .dot => "Dot"
  | .question => "Question"
  | .colon => "Colon"
  | .bang => "Bang"
  | .plus => "Plus"
  | .minus => "Minus"
  | .star => "Star"
  | .slash => "Slash"
  | .percent => "Percent"
  | .eqEq => "EqEq"
  | .notEq => "NotEq"
  | .strictEq => "StrictEq"
  | .strictNotEq => "StrictNotEq"
  | .lt => "Lt"
  | .le => "Le"
  | .gt => "Gt"
  | .ge => "Ge"
  | .andAnd => "AndAnd"
  | .orOr => "OrOr"
  | .nullish => "Nullish"

/-- How messages show a token or, where there is none, the end of the expression. -/
def describe? : Option Token → String
  | some token => token.describe
  | none => "Eof"

/-- Whether a token can end a path, so that a dot after it starts a segment. -/
def endsSegment : Token → Bool
  | .ident _ | .rightBracket | .rightParen => true
  | _ => false

end Token

/-- A token and the offset of its first byte. -/
structure Placed where
  token : Token
  position : Nat
deriving DecidableEq

end Formwork
