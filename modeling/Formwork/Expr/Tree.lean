import Formwork.Json.Basic

/-!
# Rule expressions

The trees of the expressions in rules. An expression reads answers and session data by paths and
combines them by operators and a fixed set of helpers; nothing else can be named or called.
-/

namespace Formwork

/-- What a path starts from: the answers, the user or the task of the session. -/
inductive Root where
  | data
  | user
  | task
deriving Repr, DecidableEq

namespace Root

def name : Root → String
  | .data => "data"
  | .user => "user"
  | .task => "task"

def ofName? (word : String) : Option Root :=
  [data, user, task].find? fun root => root.name == word

end Root

inductive UnaryOp where
  | not
  | negate
deriving Repr, DecidableEq

inductive BinaryOp where
  | add
  | sub
  | mul
  | div
  | rem
  | eq
  | notEq
  | strictEq
  | strictNotEq
  | lt
  | le
  | gt
  | ge
deriving Repr, DecidableEq

/-- The operators that evaluate their right side only if they need it. -/
inductive LogicalOp where
  | and
  | or
  | nullish
deriving Repr, DecidableEq

/-- The functions that an expression can call. -/
inductive Helper where
  | len
  | lower
  | upper
  | trim
  | contains
  | startsWith
  | endsWith
  | includes
  | isEmpty
  | concat
  | number
  | string
  | round
  | min
  | max
  | sum
  | choice
deriving Repr, DecidableEq

namespace Helper

def all : List Helper :=
  [len, lower, upper, trim, contains, startsWith, endsWith, includes, isEmpty, concat, number,
    string, round, min, max, sum, choice]

def name : Helper → String
  | .len => "len"
  | .lower => "lower"
  | .upper => "upper"
  | .trim => "trim"
  | .contains => "contains"
  | .startsWith => "startsWith"
  | .endsWith => "endsWith"
  | .includes => "includes"
  | .isEmpty => "isEmpty"
  | .concat => "concat"
  | .number => "number"
  | .string => "string"
  | .round => "round"
  | .min => "min"
  | .max => "max"
  | .sum => "sum"
  | .choice => "choice"

def ofName? (word : String) : Option Helper := all.find? fun helper => helper.name == word

/-- The least and the greatest number of arguments. -/
def arity : Helper → Nat × Nat
  | .len | .lower | .upper | .trim | .isEmpty | .number | .string | .sum => (1, 1)
  | .contains | .startsWith | .endsWith | .includes | .choice => (2, 2)
  | .round => (1, 2)
  | .concat | .min | .max => (1, 16)

end Helper

mutual

/-- A rule expression. -/
inductive Expr where
  | literal (value : Json)
  | path (root : Root) (segments : List Segment)
  | unary (op : UnaryOp) (operand : Expr)
  | binary (op : BinaryOp) (left right : Expr)
  | logical (op : LogicalOp) (left right : Expr)
  | conditional (test yes no : Expr)
  | call (helper : Helper) (arguments : List Expr)
  | array (items : List Expr)

/-- A step of a path: a field by name, or a field or item by the value of an expression. -/
inductive Segment where
  | field (name : String)
  | index (key : Expr)

end

instance : Inhabited Expr := ⟨.literal .null⟩

end Formwork
