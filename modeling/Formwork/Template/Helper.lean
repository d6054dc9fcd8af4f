import Formwork.Decimal.Literal
import Formwork.Template.Basic

/-!
# Helpers

The helpers that a template can call, and the result of those that make a value of their arguments.
A call of any other name fails, and so does one with too few arguments.
-/

namespace Formwork.Template

/-- The least positive float that does not count as false. -/
def leastNormal : Float := Binary64.twoPow (-1022)

/-- Whether a value counts as true; every number does where zero does. -/
def isTruthy (withZero : Bool) : Json → Bool
  | .null => false
  | .bool value => value
  | .num value =>
    withZero || decide (leastNormal ≤ value.toFloat) || decide (value.toFloat ≤ -leastNormal)
  | .str text => !text.isEmpty
  | .arr items => !items.isEmpty
  | .obj fields => !fields.isEmpty

mutual

/-- The text of a value in a message. -/
def showValue : Json → String
  | .null => ""
  | .bool value => if value then "true" else "false"
  | .num value => value.toText
  | .str text => text
  | .arr items => "[" ++ showItems items ++ "]"
  | .obj _ => "[object]"

def showItems : List Json → String
  | [] => ""
  | [item] => showValue item
  | item :: rest => showValue item ++ ", " ++ showItems rest

end

/-- The text of a value that may be missing. -/
def showFound (found : Option Json) : String := (found.map showValue).getD ""

/-- The helpers. -/
inductive Helper where
  | if_
  | unless
  | each
  | with_
  | raw
  | log
  | lookup
  | eq
  | ne
  | gt
  | gte
  | lt
  | lte
  | and
  | or
  | not
  | len
deriving Repr, DecidableEq

/-- The helpers by name. -/
def Helper.table : List (String × Helper) :=
  [("if", .if_), ("unless", .unless), ("each", .each), ("with", .with_), ("raw", .raw),
   ("log", .log), ("lookup", .lookup), ("eq", .eq), ("ne", .ne), ("gt", .gt), ("gte", .gte),
   ("lt", .lt), ("lte", .lte), ("and", .and), ("or", .or), ("not", .not), ("len", .len)]

def Helper.ofName? (name : String) : Option Helper := Helper.table.lookup name

/-- An item of an array by index, or a field of an object by name. -/
def lookUp : Json → Json → Option Json
  | .arr items, .num index => index.toNat?.bind (items[·]?)
  | .obj fields, .str name => Fields.get? fields name
  | _, _ => none

/-- The order of two floats, if neither is not a number. -/
def orderFloats (x y : Float) : Option Ordering :=
  if x < y then some .lt else if y < x then some .gt else if x == y then some .eq else none

/-- The order of two values of one kind. A text is compared with a number as the number that it
writes. -/
def order : Json → Json → Option Ordering
  | .num (.int m), .num (.int n) => some (compare m n)
  | .num x, .num y => orderFloats x.toFloat y.toFloat
  | .str a, .str b => some (compare a b)
  | .bool a, .bool b => some (compare a b)
  | .num x, .str b => (Decimal.readFloat? b).bind (orderFloats x.toFloat)
  | .str a, .num y => (Decimal.readFloat? a).bind (orderFloats · y.toFloat)
  | _, _ => none

/-- The number of items, fields or bytes of a value. -/
def extent : Json → Nat
  | .arr items => items.length
  | .obj fields => fields.length
  | .str text => text.utf8ByteSize
  | _ => 0

/-- Whether a word names a level for records, in any case. -/
def isLevel (word : String) : Bool :=
  ["error", "warn", "info", "debug", "trace"].contains (word.map Char.toLower)

/-- The level that a call gives for what it records. -/
def levelOf (named : Fields Json) : String :=
  ((Fields.get? named "level").bind Json.str?).getD "info"

/-- Whether an order is there and of the wanted kind. -/
def ordered (wanted : Ordering → Bool) (a b : Json) : Option (Option Json) :=
  some (some (.bool ((order a b).any wanted)))

/-- The result of a call without content, which may be a missing value. -/
def Helper.apply (helper : Helper) (arguments : List Json) (named : Fields Json) :
    Option (Option Json) :=
  match helper, arguments with
  | .if_, _ :: _ | .unless, _ :: _ | .each, _ :: _ | .with_, _ :: _ => some (some (.str ""))
  | .raw, _ => some (some (.str ""))
  | .log, _ => if isLevel (levelOf named) then some (some (.str "")) else none
  | .lookup, collection :: index :: _ => some (lookUp collection index)
  | .eq, a :: b :: _ => some (some (.bool (a == b)))
  | .ne, a :: b :: _ => some (some (.bool (!(a == b))))
  | .gt, a :: b :: _ => ordered (· == .gt) a b
  | .gte, a :: b :: _ => ordered (· != .lt) a b
  | .lt, a :: b :: _ => ordered (· == .lt) a b
  | .lte, a :: b :: _ => ordered (· != .gt) a b
  | .and, a :: b :: _ => some (some (.bool (isTruthy false a && isTruthy false b)))
  | .or, a :: b :: _ => some (some (.bool (isTruthy false a || isTruthy false b)))
  | .not, a :: _ => some (some (.bool (!isTruthy false a)))
  | .len, a :: _ => some (some (.int (extent a)))
  | _, _ => none

end Formwork.Template
