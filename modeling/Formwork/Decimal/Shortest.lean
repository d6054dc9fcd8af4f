import Formwork.Decimal.Binary64

/-!
# Shortest decimals

`shortest` finds the decimal with the fewest digits that reads back as a given float; of two such
decimals it takes the nearer one, and a `Tie` says which one where they are equally near.
`FloatStyle` says how its digits are laid out.
-/

namespace Formwork.Decimal

/-- A non-negative decimal, `digits * 10 ^ exponent`. -/
structure Scaled where
  digits : Nat
  exponent : Int
deriving Repr, DecidableEq

/-- How many decimal digits a number has; zero has one. -/
def digitCount (n : Nat) : Nat := (Nat.toDigits 10 n).length

/-- The power of ten that `numerator / denominator` starts with: the `e` with
`10 ^ e ≤ numerator / denominator < 10 ^ (e + 1)`. -/
def magnitude (numerator denominator : Nat) : Int :=
  if denominator ≤ numerator then (digitCount (numerator / denominator) : Int) - 1
  else
    let count := digitCount (denominator / numerator)
    if numerator * Nat.pow 10 (count - 1) = denominator then 1 - (count : Int) else -(count : Int)

/-- Which one of two decimals that are equally near is taken: the one with an even last digit, or
the greater one. -/
inductive Tie where
  | toEven
  | up
deriving Repr, DecidableEq

/-- The decimals that read back as one float: those between `low` and `high`, both over
`denominator`, with the ends if `closed`. -/
structure Interval where
  low : Nat
  value : Nat
  high : Nat
  denominator : Nat
  closed : Bool

/-- The decimals that round to `significand * 2 ^ exponent`. -/
def Interval.of (significand : Nat) (exponent : Int) : Interval :=
  let scale := Nat.pow 2 (exponent - 2).toNat
  let below := if significand = Nat.pow 2 52 ∧ Binary64.leastExponent < exponent then 1 else 2
  { low := (4 * significand - below) * scale
    value := 4 * significand * scale
    high := (4 * significand + 2) * scale
    denominator := Nat.pow 2 (2 - exponent).toNat
    closed := significand % 2 == 0 }

/-- Whether a decimal reads back as the float of the interval. -/
def Interval.holds (i : Interval) (d : Scaled) : Bool :=
  let up := Nat.pow 10 d.exponent.toNat
  let down := Nat.pow 10 (-d.exponent).toNat
  let point := d.digits * up * i.denominator
  if i.closed then i.low * down ≤ point && point ≤ i.high * down
  else i.low * down < point && point < i.high * down

/-- The decimal nearest to the value of the interval among the multiples of `10 ^ exponent` next
to it, if one of them reads back. -/
def Interval.nearest? (i : Interval) (tie : Tie) (exponent : Int) : Option Scaled :=
  let up := Nat.pow 10 exponent.toNat
  let down := Nat.pow 10 (-exponent).toNat
  let step := i.denominator * up
  let floor := i.value * down / step
  let twice := 2 * (i.value * down % step)
  let lower : Scaled := ⟨floor, exponent⟩
  let upper : Scaled := ⟨floor + 1, exponent⟩
  let preferLower := twice < step || (twice == step && tie == .toEven && floor % 2 == 0)
  let (first, second) := if preferLower then (lower, upper) else (upper, lower)
  if i.holds first then some first else if i.holds second then some second else none

/-- The shortest decimal that reads back as `significand * 2 ^ exponent`. Seventeen digits always
suffice. -/
def shortest (tie : Tie) (significand : Nat) (exponent : Int) : Scaled :=
  let interval := Interval.of significand exponent
  let top := magnitude interval.value interval.denominator
  ((List.range 17).findSome? fun (count : Nat) => interval.nearest? tie (top - count)).getD ⟨0, 0⟩

/-- How the text of a float is laid out. -/
structure FloatStyle where
  /-- The least power of ten that is still written without an exponent. -/
  positionalFrom : Int
  /-- The greatest one. -/
  positionalTo : Int
  /-- What precedes the digits of a non-negative exponent. -/
  exponentSign : String
  /-- Which one of two shortest decimals is written where both are equally near. -/
  tie : Tie

/-- A run of zeros. -/
def zeros (count : Nat) : String := String.ofList (List.replicate count '0')

/-- The digits of a decimal with the zeros at their end left out. -/
def trimZeros (digits : List Char) : List Char :=
  (digits.reverse.dropWhile (· == '0')).reverse

/-- Lays out the digits of a number that starts with the power of ten `top`. -/
def FloatStyle.layOut (style : FloatStyle) (digits : List Char) (top : Int) : String :=
  let text := String.ofList digits
  if style.positionalFrom ≤ top && top ≤ style.positionalTo then
    if top < 0 then "0." ++ zeros (-top - 1).toNat ++ text
    else
      let whole := top.toNat + 1
      if digits.length ≤ whole then text ++ zeros (whole - digits.length) ++ ".0"
      else String.ofList (digits.take whole) ++ "." ++ String.ofList (digits.drop whole)
  else
    let mantissa :=
      match digits with
      | [] => ""
      | [d] => String.singleton d
      | d :: rest => String.singleton d ++ "." ++ String.ofList rest
    let sign := if top < 0 then "-" else style.exponentSign
    mantissa ++ "e" ++ sign ++ toString top.natAbs

/-- The text of a float. -/
def FloatStyle.write (style : FloatStyle) (x : Float) : String :=
  match Binary64.parts? x with
  | none => if x.isNaN then "NaN" else if x < 0.0 then "-inf" else "inf"
  | some p =>
    let sign := if p.negative then "-" else ""
    if p.significand = 0 then sign ++ "0.0"
    else
      let decimal := shortest style.tie p.significand p.exponent
      let digits := Nat.toDigits 10 decimal.digits
      sign ++ style.layOut (trimZeros digits) (decimal.exponent + digits.length - 1)

end Formwork.Decimal
