import Formwork.Decimal.Shortest

/-!
# Decimal texts

Reading a decimal text as the nearest float (`readFloat?`) or as an index of 64 bits
(`readIndex?`). Neither accepts blanks or digit separators.
-/

namespace Formwork.Decimal

/-- The number that a list of decimal digits writes. -/
def ofDigits (digits : List Char) : Nat :=
  digits.foldl (fun n c => 10 * n + (c.toNat - '0'.toNat)) 0

/-- The float nearest to `digits * 10 ^ exponent`. The bounds keep the powers of ten small: beyond
them the answer is infinity or zero. -/
def nearestFloat (digits : Nat) (exponent : Int) : Float :=
  let top := (digitCount digits : Int) + exponent
  if digits = 0 || top < -400 then 0.0
  else if 400 < top then Binary64.infinity
  else OfScientific.ofScientific digits (exponent < 0) exponent.natAbs

/-- A sign, if there is one, and what follows it. -/
def takeSign : List Char → Bool × List Char
  | '+' :: rest => (false, rest)
  | '-' :: rest => (true, rest)
  | rest => (false, rest)

/-- The digits at the start of a text and what follows them. -/
def takeDigits (text : List Char) : List Char × List Char :=
  (text.takeWhile Char.isDigit, text.dropWhile Char.isDigit)

/-- The exponent that ends a decimal text: nothing, or `e`, an optional sign and digits. -/
def readExponent? : List Char → Option Int
  | [] => some 0
  | c :: rest =>
    if c = 'e' || c = 'E' then
      let (negative, digits) := takeSign rest
      if digits.isEmpty || !digits.all Char.isDigit then none
      else some (if negative then -(ofDigits digits : Int) else ofDigits digits)
    else none

/-- An unsigned decimal text with at least one digit before the exponent. -/
def readMagnitude? (text : List Char) : Option Float :=
  let (whole, rest) := takeDigits text
  let (fraction, rest) :=
    match rest with
    | '.' :: rest => takeDigits rest
    | rest => ([], rest)
  if whole.isEmpty && fraction.isEmpty then none
  else do
    let exponent ← readExponent? rest
    return nearestFloat (ofDigits (whole ++ fraction)) (exponent - fraction.length)

/-- The float that a text writes: a decimal, or in any case `inf`, `infinity` or `nan`, after an
optional sign. -/
def readFloat? (text : String) : Option Float :=
  let (negative, rest) := takeSign text.toList
  let word := String.ofList (rest.map Char.toLower)
  let magnitude? :=
    if word = "inf" || word = "infinity" then some Binary64.infinity
    else if word = "nan" then some Binary64.nan
    else readMagnitude? rest
  magnitude?.map (Binary64.signed negative)

/-- The largest index. -/
def maxIndex : Nat := Nat.pow 2 64 - 1

/-- The index that a text writes: decimal digits after an optional plus sign. -/
def readIndex? (text : String) : Option Nat :=
  let digits :=
    match text.toList with
    | '+' :: rest => rest
    | rest => rest
  if digits.isEmpty || !digits.all Char.isDigit then none
  else
    let n := ofDigits digits
    if n ≤ maxIndex then some n else none

end Formwork.Decimal
