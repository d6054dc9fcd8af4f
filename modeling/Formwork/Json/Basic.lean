import Formwork.Json.Number

/-!
# JSON values

An object is a list of fields in the order of their first insertion, with one field a name. Equality
(`Json.same`) does not look at the order of fields.
-/

namespace Formwork

/-- Named values in the order of their first insertion. -/
abbrev Fields (α : Type) := List (String × α)

namespace Fields

variable {α : Type}

/-- The value of a name. -/
def get? (fields : Fields α) (name : String) : Option α := fields.lookup name

/-- Whether a name has a value. -/
def has (fields : Fields α) (name : String) : Bool := (get? fields name).isSome

/-- Gives a name a value: in its place if it has one, else at the end. -/
def set : Fields α → String → α → Fields α
  | [], name, value => [(name, value)]
  | (key, old) :: rest, name, value =>
    if key = name then (key, value) :: rest else (key, old) :: set rest name value

/-- Gives names values, one after the other. -/
def setAll (fields more : Fields α) : Fields α :=
  more.foldl (fun acc (name, value) => set acc name value) fields

/-- The names in order. -/
def names (fields : Fields α) : List String := fields.map (·.1)

end Fields

/-- A JSON value. -/
inductive Json where
  | null
  | bool (value : Bool)
  | num (value : Number)
  | str (value : String)
  | arr (items : List Json)
  | obj (fields : List (String × Json))

namespace Json

instance : Inhabited Json := ⟨.null⟩

/-- An integer. -/
def int (n : Int) : Json := .num (.int n)

/-- A list of texts. -/
def texts (items : List String) : Json := .arr (items.map .str)

/-- A value or `null`. -/
def ofOption {α : Type} (encode : α → Json) : Option α → Json
  | some value => encode value
  | none => .null

/-- The result of arithmetic; `null` if it is infinite or not a number. -/
def ofArithmetic (x : Float) : Json :=
  ofOption .num (Number.ofArithmetic? x)

/-- The text of a string. -/
def str? : Json → Option String
  | .str text => some text
  | _ => none

/-- A field of an object. -/
def field? : Json → String → Option Json
  | .obj fields, name => Fields.get? fields name
  | _, _ => none

def isNull : Json → Bool
  | .null => true
  | _ => false

def isStr : Json → Bool
  | .str _ => true
  | _ => false

mutual

/-- Equality of values: arrays item by item, objects by name whatever the order. -/
def same : Json → Json → Bool
  | .null, .null => true
  | .bool a, .bool b => a == b
  | .num a, .num b => a == b
  | .str a, .str b => a == b
  | .arr a, .arr b => sameItems a b
  | .obj a, .obj b => a.length == b.length && sameFields a b
  | _, _ => false

/-- Whether two lists are equal item by item. -/
def sameItems : List Json → List Json → Bool
  | [], [] => true
  | a :: as, b :: bs => same a b && sameItems as bs
  | _, _ => false

/-- Whether every field of the first list is in the second. -/
def sameFields : List (String × Json) → List (String × Json) → Bool
  | [], _ => true
  | (name, a) :: rest, others =>
    (match others.lookup name with
      | some b => same a b
      | none => false) && sameFields rest others

end

instance : BEq Json := ⟨same⟩

/-- Equality of answers and other named values, whatever their order. -/
def sameObject (a b : Fields Json) : Bool := a.length == b.length && sameFields a b

end Json

end Formwork
