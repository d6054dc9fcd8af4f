import Formwork.Decimal.Shortest

/-!
# JSON numbers

A number is an integer or a finite float. The two kinds are told apart: `5` and `5.0` are different
numbers with different texts, while `0.0` and `-0.0` are equal.
-/

namespace Formwork

/-- A JSON number. -/
inductive Number where
  | int (value : Int)
  | float (value : Float) (finite : value.isFinite = true)

namespace Number

instance : Inhabited Number := ⟨.int 0⟩

/-- The float as a number, if it is finite. -/
def ofFloat? (x : Float) : Option Number :=
  if finite : x.isFinite = true then some (.float x finite) else none

/-- Integral values below this magnitude are kept as integers. -/
def integralLimit : Nat := 9000000000000000

/-- The result of arithmetic: an integer where the value is integral and below `integralLimit`, so
that it equals a stored integer, else a float. There is no number that is not finite. -/
def ofArithmetic? (x : Float) : Option Number :=
  match Binary64.toInt? x with
  | some n => if n.natAbs < integralLimit then some (.int n) else ofFloat? x
  | none => ofFloat? x

/-- The value as a float, the nearest one for an integer. -/
def toFloat : Number → Float
  | .int n => Float.ofInt n
  | .float x _ => x

/-- The value of a non-negative integer. -/
def toNat? : Number → Option Nat
  | .int n => if 0 ≤ n then some n.toNat else none
  | .float .. => none

/-- Numbers are equal if they are of one kind and have one value. -/
def same : Number → Number → Bool
  | .int m, .int n => m == n
  | .float x _, .float y _ => x == y
  | _, _ => false

instance : BEq Number := ⟨same⟩

/-- Floats are written without an exponent from 0.00001 up to 10¹⁶, always with a fraction. -/
def floatStyle : Decimal.FloatStyle := ⟨-5, 15, "+", .toEven⟩

/-- The text of a number. -/
def toText : Number → String
  | .int n => toString n
  | .float x _ => floatStyle.write x

end Number

end Formwork
