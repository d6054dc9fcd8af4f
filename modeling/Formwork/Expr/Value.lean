import Formwork.Decimal.Literal
import Formwork.Expr.Tree
import Formwork.Json.Printer
import Formwork.Text.Case

/-!
# Values in expressions

How expressions convert, compare and combine values.
-/

namespace Formwork

namespace Json

/-- Whether a value counts as true: not `null`, `false`, zero or the empty text. -/
def truthy : Json → Bool
  | .null => false
  | .bool value => value
  | .num value => value.toFloat != 0.0
  | .str text => !text.isEmpty
  | .arr _ => true
  | .obj _ => true

/-- Whether a value counts as no answer: `null`, a text of blanks, an empty array or object. -/
def isBlank : Json → Bool
  | .null => true
  | .bool _ => false
  | .num _ => false
  | .str text => (Text.trim text).isEmpty
  | .arr items => items.isEmpty
  | .obj fields => fields.isEmpty

/-- The value as a number. A text counts as the decimal it writes, a blank one as zero; arrays,
objects and other texts are not numbers. -/
def toFloat : Json → Float
  | .null => 0.0
  | .bool value => if value then 1.0 else 0.0
  | .num value => value.toFloat
  | .str text =>
    let trimmed := Text.trim text
    if trimmed.isEmpty then 0.0 else (Decimal.readFloat? trimmed).getD Binary64.nan
  | .arr _ => Binary64.nan
  | .obj _ => Binary64.nan

mutual

/-- The value as a text: `null` is empty, the items of an array are joined by commas, an object is
its JSON text. -/
def display : Json → String
  | .null => ""
  | .bool value => if value then "true" else "false"
  | .num value => value.toText
  | .str text => text
  | .arr items => displayItems items
  | .obj fields => compact (.obj fields)

def displayItems : List Json → String
  | [] => ""
  | [item] => display item
  | item :: rest => display item ++ "," ++ displayItems rest

end

/-- The bytes that every value takes, whatever it holds. -/
def slotBytes : Nat := 72

mutual

/-- The bytes that a value is counted as. -/
def byteSize : Json → Nat
  | .null => slotBytes
  | .bool _ => slotBytes
  | .num _ => slotBytes
  | .str text => slotBytes + text.utf8ByteSize
  | .arr items => slotBytes + itemsByteSize items
  | .obj fields => slotBytes + fieldsByteSize fields

def itemsByteSize : List Json → Nat
  | [] => 0
  | item :: rest => byteSize item + itemsByteSize rest

def fieldsByteSize : List (String × Json) → Nat
  | [] => 0
  | (name, value) :: rest => name.utf8ByteSize + byteSize value + fieldsByteSize rest

end

/-- A number or a truth value. -/
def isNumeric : Json → Bool
  | .num _ => true
  | .bool _ => true
  | _ => false

/-- An array or an object. -/
def isContainer : Json → Bool
  | .arr _ => true
  | .obj _ => true
  | _ => false

/-- Equality by `==`: `null` equals only itself, and beside a number or truth value a simple value
counts as a number. -/
def looseEq (a b : Json) : Bool :=
  if a.isNull || b.isNull then a.isNull && b.isNull
  else if (a.isNumeric || b.isNumeric) && !a.isContainer && !b.isContainer then
    a.toFloat == b.toFloat
  else a == b

/-- Equality by `===`: values of one kind that are equal, whatever the kind of number. -/
def strictEq : Json → Json → Bool
  | .num a, .num b => a.toFloat == b.toFloat
  | a, b => a == b

end Json

/-- The comparison that a token such as `<` stands for: texts by code points, anything else as
numbers. -/
def BinaryOp.compare (op : BinaryOp) (a b : Json) : Bool :=
  match a, b with
  | .str a, .str b =>
    match op with
    | .lt => decide (a < b)
    | .le => !decide (b < a)
    | .gt => decide (b < a)
    | _ => !decide (a < b)
  | a, b =>
    let x := a.toFloat
    let y := b.toFloat
    match op with
    | .lt => decide (x < y)
    | .le => decide (x ≤ y)
    | .gt => decide (y < x)
    | _ => decide (y ≤ x)

namespace Text

/-- Whether a text occurs in another one. -/
def occursIn (part : List Char) : List Char → Bool
  | [] => part.isEmpty
  | c :: rest => part.isPrefixOf (c :: rest) || occursIn part rest

def contains (text part : String) : Bool := occursIn part.toList text.toList

def startsWith (text part : String) : Bool := part.toList.isPrefixOf text.toList

def endsWith (text part : String) : Bool := part.toList.isSuffixOf text.toList

end Text

namespace Helper

/-- The numbers among some arguments and the items of array arguments. -/
def numbers (arguments : List Json) : List Float :=
  let all := arguments.flatMap fun value =>
    match value with
    | .arr items => items.map Json.toFloat
    | .null => []
    | value => [value.toFloat]
  all.filter fun x => !x.isNaN

/-- How many digits a rounding keeps: the whole part of the number, from 0 to 10. -/
def roundDigits (digits : Json) : Nat :=
  let wanted := digits.toFloat
  (List.range 10).countP fun n => decide (Float.ofNat (n + 1) ≤ wanted)

/-- Joins texts, or arrays and values if the first argument is an array. -/
def concatenate : List Json → Json
  | .arr items :: rest =>
    .arr <| items ++ rest.flatMap fun value =>
      match value with
      | .arr items => items
      | .null => []
      | value => [value]
  | arguments => .str (String.join (arguments.map Json.display))

/-- The number of characters, items or fields. -/
def length : Json → Nat
  | .str text => text.length
  | .arr items => items.length
  | .obj fields => fields.length
  | _ => 0

/-- The value of a call. -/
def apply (helper : Helper) (arguments : List Json) : Json :=
  let first := arguments.headD .null
  let second := (arguments.drop 1).headD .null
  match helper with
  | .len => .int (length first)
  | .lower => .str (Text.lower first.display)
  | .upper => .str (Text.upper first.display)
  | .trim => .str (Text.trim first.display)
  | .contains | .includes =>
    match first with
    | .arr items => .bool (items.any fun item => item.looseEq second)
    | value => .bool (Text.contains value.display second.display)
  | .startsWith => .bool (Text.startsWith first.display second.display)
  | .endsWith => .bool (Text.endsWith first.display second.display)
  | .isEmpty => .bool first.isBlank
  | .concat => concatenate arguments
  | .number => .ofArithmetic first.toFloat
  | .string => .str first.display
  | .round =>
    let factor := Float.ofNat (Nat.pow 10 (roundDigits second))
    .ofArithmetic (Binary64.round (first.toFloat * factor) / factor)
  | .min =>
    match numbers arguments with
    | [] => .null
    | x :: rest => .ofArithmetic (rest.foldl (fun a b => if b < a then b else a) x)
  | .max =>
    match numbers arguments with
    | [] => .null
    | x :: rest => .ofArithmetic (rest.foldl (fun a b => if a < b then b else a) x)
  | .sum => .ofArithmetic ((numbers arguments).foldl (· + ·) 0.0)
  | .choice => .obj [("value", first), ("label", .str second.display)]

end Helper

end Formwork
