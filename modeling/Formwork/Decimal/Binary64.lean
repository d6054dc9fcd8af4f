/-!
# Binary64 numbers as integers

A finite float is `± significand * 2 ^ exponent`. Rounding, remainders and integrality are decided
on these integers, where they are exact.
-/

namespace Formwork.Binary64

/-- The parts of a finite float, `± significand * 2 ^ exponent`. -/
structure Parts where
  negative : Bool
  significand : Nat
  exponent : Int
deriving Repr, DecidableEq

/-- The exponent shared by the subnormal numbers and the smallest normal ones. -/
def leastExponent : Int := -1074

/-- The parts of a float, unless it is infinite or not a number. -/
def parts? (x : Float) : Option Parts :=
  let bits := x.toBits.toNat
  let fraction : Nat := bits % Nat.pow 2 52
  let biased : Nat := bits / Nat.pow 2 52 % Nat.pow 2 11
  let negative := bits / Nat.pow 2 63 == 1
  if biased = 2047 then none
  else if biased = 0 then some ⟨negative, fraction, leastExponent⟩
  else some ⟨negative, Nat.pow 2 52 + fraction, (biased : Int) - 1075⟩

/-- The integer that the parts denote, if they denote one. -/
def Parts.toInt? (p : Parts) : Option Int :=
  let magnitude? :=
    if 0 ≤ p.exponent then some (p.significand * Nat.pow 2 p.exponent.toNat)
    else
      let unit := Nat.pow 2 (-p.exponent).toNat
      if p.significand % unit = 0 then some (p.significand / unit) else none
  magnitude?.map fun n => if p.negative then -(n : Int) else n

/-- The integer that a float denotes, if it denotes one. Both zeros denote `0`. -/
def toInt? (x : Float) : Option Int :=
  (parts? x).bind Parts.toInt?

/-- `2 ^ exponent`, for an exponent from -1074 to 1023. -/
def twoPow (exponent : Int) : Float :=
  if -1022 ≤ exponent then Float.ofBits (UInt64.ofNat ((exponent + 1023).toNat * Nat.pow 2 52))
  else Float.ofBits (UInt64.ofNat (Nat.pow 2 (exponent - leastExponent).toNat))

/-- `significand * 2 ^ exponent`, exact whenever a float has that value. -/
def scale (significand : Nat) (exponent : Int) : Float :=
  let spare := significand.log2 - 52
  Float.ofNat (significand / Nat.pow 2 spare) * twoPow (exponent + spare)

/-- A magnitude with a sign, so that a negative zero can be made. -/
def signed (negative : Bool) (magnitude : Float) : Float :=
  if negative then -magnitude else magnitude

/-- The nearest integer, a half going away from zero. -/
def round (x : Float) : Float :=
  match parts? x with
  | none => x
  | some p =>
    if 0 ≤ p.exponent then x
    else
      let unit := Nat.pow 2 (-p.exponent).toNat
      signed p.negative (Float.ofNat ((2 * p.significand + unit) / (2 * unit)))

/-- The quiet float that is not a number. -/
def nan : Float := 0.0 / 0.0

/-- Positive infinity. -/
def infinity : Float := 1.0 / 0.0

/-- The remainder of the division that truncates: it has the sign of `x` and is exact. -/
def remainder (x y : Float) : Float :=
  match parts? x, parts? y with
  | some a, some b =>
    if b.significand = 0 then nan
    else
      let unit := min a.exponent b.exponent
      let dividend := a.significand * Nat.pow 2 (a.exponent - unit).toNat
      let divisor := b.significand * Nat.pow 2 (b.exponent - unit).toNat
      signed a.negative (scale (dividend % divisor) unit)
  | some _, none => if y.isNaN then nan else x
  | none, _ => nan

end Formwork.Binary64
