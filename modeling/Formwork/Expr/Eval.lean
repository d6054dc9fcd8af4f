import Formwork.Expr.Parser
import Formwork.Expr.Value

/-!
# Evaluating rule expressions

`Expr.eval` walks a tree and reports what it costs to a `Meter`: one tick for every node and every
segment of a path, and the bytes of the values that it makes or copies. `Metered` is the meter with
limits, which looks at a clock with every tick; `Expression.evaluate` uses it.
-/

namespace Formwork

/-- What an expression can read. -/
structure Context where
  data : Fields Json
  user : Json
  task : Json

/-- The limits of one evaluation. -/
structure Limits where
  timeBudgetMs : Nat := 1000
  maxSteps : Nat := 10000
  maxMemoryBytes : Nat := 52428800
deriving Repr, DecidableEq

/-- The time of an evaluation in nanoseconds. -/
def Limits.timeBudget (limits : Limits) : Nat := limits.timeBudgetMs * 1000000

/-- What a clock shows after so many steps of an evaluation: the nanoseconds since it began. -/
abbrev Clock : Type := Nat → Nat

/-- A clock that stands still: the evaluation takes no time. -/
def Clock.still : Clock := fun _ => 0

/-- Where an evaluation reports its steps and the bytes it takes, and how it fails. -/
class Meter (m : Type → Type) where
  tick : m Unit
  charge (bytes : Nat) : m Unit
  divisionByZero {α : Type} : m α

namespace Expr

section

variable {m : Type → Type} [Monad m] [Meter m]

/-- The value of an operator between two values. -/
def combine (op : BinaryOp) (a b : Json) : m Json :=
  match op with
  | .add =>
    if a.isStr || b.isStr then do
      let text := a.display ++ b.display
      Meter.charge text.utf8ByteSize
      return .str text
    else return .ofArithmetic (a.toFloat + b.toFloat)
  | .sub => return .ofArithmetic (a.toFloat - b.toFloat)
  | .mul => return .ofArithmetic (a.toFloat * b.toFloat)
  | .div =>
    if b.toFloat == 0.0 then Meter.divisionByZero
    else return .ofArithmetic (a.toFloat / b.toFloat)
  | .rem =>
    if b.toFloat == 0.0 then Meter.divisionByZero
    else return .ofArithmetic (Binary64.remainder a.toFloat b.toFloat)
  | .eq => return .bool (a.looseEq b)
  | .notEq => return .bool !(a.looseEq b)
  | .strictEq => return .bool (a.strictEq b)
  | .strictNotEq => return .bool !(a.strictEq b)
  | .lt | .le | .gt | .ge => return .bool (op.compare a b)

/-- The value of a unary operator. -/
def applyUnary : UnaryOp → Json → Json
  | .not, value => .bool !value.truthy
  | .negate, value => .ofArithmetic (-value.toFloat)

/-- Whether a logical operator is content with its left side. -/
def settles : LogicalOp → Json → Bool
  | .and, left => !left.truthy
  | .or, left => left.truthy
  | .nullish, left => !left.isNull

/-- The item or field of a value that a key names. -/
def member? : Json → Json → Option Json
  | .arr items, .num n => n.toNat?.bind fun index => items[index]?
  | .arr items, .str name => (Decimal.readIndex? name).bind fun index => items[index]?
  | .obj fields, .str name => Fields.get? fields name
  | _, _ => none

/-- Whether a key is the word that asks for a length. -/
def asksLength : Json → Bool
  | .str name => name == "length"
  | _ => false

/-- The length of a text or array. -/
def lengthOf : Json → Json
  | .str text => .int text.length
  | .arr items => .int items.length
  | _ => .null

mutual

/-- The value of an expression. -/
def eval (ctx : Context) : Expr → m Json
  | .literal value => do
    Meter.tick
    return value
  | .path .data [] => do
    Meter.tick
    let whole := Json.obj ctx.data
    Meter.charge whole.byteSize
    return whole
  | .path .data (first :: rest) => do
    Meter.tick
    let key ← segmentKey ctx first
    match key.str?.bind (Fields.get? ctx.data) with
    | some value => follow ctx value rest
    | none => return if asksLength key then .int ctx.data.length else .null
  | .path .user segments => do
    Meter.tick
    follow ctx ctx.user segments
  | .path .task segments => do
    Meter.tick
    follow ctx ctx.task segments
  | .unary op operand => do
    Meter.tick
    let value ← eval ctx operand
    return applyUnary op value
  | .binary op left right => do
    Meter.tick
    let a ← eval ctx left
    let b ← eval ctx right
    combine op a b
  | .logical op left right => do
    Meter.tick
    let a ← eval ctx left
    if settles op a then return a else eval ctx right
  | .conditional test yes no => do
    Meter.tick
    let value ← eval ctx test
    if value.truthy then eval ctx yes else eval ctx no
  | .call helper arguments => do
    Meter.tick
    let values ← evalAll ctx arguments
    let value := helper.apply values
    Meter.charge value.byteSize
    return value
  | .array items => do
    Meter.tick
    let values ← evalAll ctx items
    Meter.charge (Json.arr values).byteSize
    return .arr values

/-- The values of some expressions in order. -/
def evalAll (ctx : Context) : List Expr → m (List Json)
  | [] => return []
  | first :: rest => do
    let value ← eval ctx first
    let values ← evalAll ctx rest
    return value :: values

/-- The value of a segment of a path. -/
def segmentKey (ctx : Context) : Segment → m Json
  | .field name => do
    Meter.tick
    return .str name
  | .index key => do
    Meter.tick
    eval ctx key

/-- What the segments of a path lead to from a value: `null` where there is nothing, and a length
for a last segment of that name. -/
def follow (ctx : Context) (current : Json) : List Segment → m Json
  | [] => do
    Meter.charge current.byteSize
    return current
  | segment :: rest => do
    let key ← segmentKey ctx segment
    match member? current key with
    | some next => follow ctx next rest
    | none => return if asksLength key && rest.isEmpty then lengthOf current else .null

end

end

end Expr

/-! ### Limits -/

/-- What an evaluation has used up. -/
structure Spent where
  steps : Nat := 0
  bytes : Nat := 0
deriving Repr, DecidableEq

/-- Evaluations under limits, timed by a clock. -/
def Metered (_ : Limits) (_ : Clock) (α : Type) : Type := Spent → Except ExprError (α × Spent)

namespace Metered

variable {limits : Limits} {clock : Clock} {α : Type}

/-- The greatest number of bytes that is told apart from more. -/
def maxBytes : Nat := Nat.pow 2 64 - 1

instance : Monad (Metered limits clock) where
  pure value := fun spent => .ok (value, spent)
  bind run next := fun spent =>
    match run spent with
    | .error error => .error error
    | .ok (value, spent) => next value spent

instance : Meter (Metered limits clock) where
  tick := fun spent =>
    if limits.maxSteps < spent.steps + 1 then .error (.stepLimit limits.maxSteps)
    else if limits.timeBudget < clock spent.steps then .error (.timeout limits.timeBudgetMs)
    else .ok ((), { spent with steps := spent.steps + 1 })
  charge bytes := fun spent =>
    let total := min (spent.bytes + bytes) maxBytes
    if total ≤ limits.maxMemoryBytes then .ok ((), { spent with bytes := total })
    else .error (.memoryLimit limits.maxMemoryBytes)
  divisionByZero := fun _ => .error .divisionByZero

/-- The value of an evaluation from scratch. -/
def run (evaluation : Metered limits clock α) : Except ExprError α :=
  match evaluation {} with
  | .error error => .error error
  | .ok (value, _) => .ok value

end Metered

/-- An expression as it is written, with its tree if it parses. -/
structure Expression where
  source : String
  tree : Except ParseError Expr

namespace Expression

def parse (source : String) : Expression := ⟨source, Expr.parse source⟩

def parseError? (expression : Expression) : Option ParseError :=
  match expression.tree with
  | .error error => some error
  | .ok _ => none

/-- The value of an expression under limits, timed by a clock. -/
def evaluate (expression : Expression) (limits : Limits) (clock : Clock) (ctx : Context) :
    Except ExprError Json :=
  match expression.tree with
  | .error error => .error (.parse error)
  | .ok tree => Metered.run (tree.eval ctx : Metered limits clock Json)

end Expression

end Formwork
