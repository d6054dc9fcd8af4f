import Formwork.Decimal.Literal
import Formwork.Json.Basic

/-!
# Reading JSON texts

`Document.read` reads a text as far as it is JSON and keeps where and why reading stopped, so that
whoever looks for data in it meets the faults of the text and of the data in the order of the text.
A place that nobody looks at is passed over, which takes less than reading: text below the deepest
level and numbers and strings without a value are `unreadable`, but they can be passed over. So a
node holds the fault of reading it, and the `stop` of the list that it ends the fault of passing
over it.
-/

namespace Formwork

/-- Why a text does not yield the data that is looked for. -/
inductive Fault where
  /-- The text is not JSON. -/
  | malformed
  /-- The text ends inside a value. -/
  | truncated
  /-- The value has another shape than the data. -/
  | mismatch
deriving Repr, DecidableEq

namespace Fault

/-- The name of a fault in messages. -/
def describe : Fault → String
  | .malformed => "malformed text"
  | .truncated => "unexpected end of text"
  | .mismatch => "unexpected data"

end Fault

/-- A JSON text as far as it could be read. -/
inductive Document where
  | null
  | bool (value : Bool)
  | num (value : Number)
  | str (value : String)
  /-- The items, and the fault that ends the list early. What a comma announces is an item. -/
  | arr (items : List Document) (stop : Option Fault)
  /-- The fields, each with its name or the fault of reading it, and the fault that ends them early.
  What a comma announces is a field. -/
  | obj (fields : List (Except Fault String × Document)) (stop : Option Fault)
  /-- A value that can be passed over but not read. -/
  | unreadable
  /-- A number or a word such as `null` that goes wrong after its first letter. -/
  | garbled (fault : Fault)
  /-- No value, or a string without an end. -/
  | missing (fault : Fault)

namespace Document

instance : Inhabited Document := ⟨.null⟩

/-- How deep values may be nested. -/
def maxDepth : Nat := 127

/-- What was read, and the text behind it unless reading stopped. -/
abbrev Reading (α : Type) := α × Except Fault (List Char)

/-- The fault that ended a reading. -/
def stop? : Except Fault (List Char) → Option Fault
  | .ok _ => none
  | .error fault => some fault

/-- A text without the blanks at its start. -/
def skipBlanks (text : List Char) : List Char :=
  text.dropWhile fun c => c = ' ' || c = '\n' || c = '\t' || c = '\r'

/-! ### Numbers -/

/-- The significands that are read digit by digit are below this bound. -/
def significandLimit : Nat := Nat.pow 2 64

/-- The longest start of some digits, after a significand, that stays below `significandLimit`: the
significand with them, and how many they are. -/
def takeSignificand (significand : Nat) : List Char → Nat × Nat
  | [] => (significand, 0)
  | c :: rest =>
    let next := 10 * significand + (c.toNat - '0'.toNat)
    if next < significandLimit then
      let (value, count) := takeSignificand next rest
      (value, count + 1)
    else (significand, 0)

/-- `10 ^ exponent`, for an exponent up to 308. -/
def tenPow (exponent : Nat) : Float := OfScientific.ofScientific 1 false exponent

/-- The float of a significand and a power of ten: one rounding for the significand and one for the
product or quotient. Powers below `10 ^ -308` are divided out in steps. No float is too large. -/
def scaleFloat (significand : Nat) (exponent : Int) : Option Float :=
  let start := Float.ofNat significand
  if 0 ≤ exponent then
    if exponent ≤ 308 then
      let product := start * tenPow exponent.toNat
      if product.isFinite then some product else none
    else if significand = 0 then some start
    else none
  else
    let down := (-exponent).toNat
    let steps := min (if down ≤ 308 then 0 else (down - 1) / 308) 3
    let reduced := (List.replicate steps (tenPow 308)).foldl (· / ·) start
    if steps = 3 then some 0.0 else some (reduced / tenPow (down - 308 * steps))

/-- A number that lacks digits before some text. Passing over it, the end of the text counts as a
wrong character. -/
def lackDigits (rest : List Char) : Reading Document :=
  (.garbled (if rest.isEmpty then .truncated else .malformed), .error .malformed)

/-- A float of the sign, significand and power of ten, unless it is too large. -/
def floatNode (negative : Bool) (significand : Nat) (exponent : Int) : Document :=
  let number? :=
    (scaleFloat significand exponent).bind fun x => Number.ofFloat? (Binary64.signed negative x)
  match number? with
  | some n => .num n
  | none => .unreadable

/-- An integer, or the nearest float of one that has more than 64 bits or is a negative zero. -/
def integerNode (negative : Bool) (digits : List Char) : Document :=
  let (significand, count) := takeSignificand 0 digits
  if count < digits.length then floatNode negative significand (digits.length - count)
  else if !negative then .num (.int significand)
  else if significand = 0 || Nat.pow 2 63 < significand then floatNode true significand 0
  else .num (.int (-significand))

/-- The exponent, if there is one, of a number with a significand and a power of ten. -/
def readScale (negative : Bool) (significand : Nat) (scale : Int) (text : List Char) :
    Reading Document :=
  match text with
  | c :: after =>
    if c = 'e' || c = 'E' then
      let (down, rest) := Decimal.takeSign after
      let (digits, rest) := Decimal.takeDigits rest
      if digits.isEmpty then lackDigits rest
      else
        let exponent : Int := Decimal.ofDigits digits
        let exponent := if down then -exponent else exponent
        (floatNode negative significand (scale + exponent), .ok rest)
    else (floatNode negative significand scale, .ok text)
  | [] => (floatNode negative significand scale, .ok [])

/-- The fraction and exponent of a number whose whole part is read. Digits of the whole part that
the significand has no room for raise the power of ten, those of the fraction are dropped. -/
def readFraction (negative : Bool) (whole : List Char) (rest : List Char) : Reading Document :=
  let (significand, count) := takeSignificand 0 whole
  let scale : Int := whole.length - count
  match rest with
  | '.' :: after =>
    let (fraction, rest) := Decimal.takeDigits after
    if fraction.isEmpty then lackDigits rest
    else
      let (significand, count) := takeSignificand significand fraction
      readScale negative significand (scale - count) rest
  | c :: _ =>
    if c = 'e' || c = 'E' then readScale negative significand scale rest
    else (integerNode negative whole, .ok rest)
  | [] => (integerNode negative whole, .ok [])

/-- A number, after its sign. -/
def readNumber (negative : Bool) (text : List Char) : Reading Document :=
  let (whole, rest) := Decimal.takeDigits text
  match whole with
  | [] => lackDigits rest
  | '0' :: _ :: _ => (.garbled .malformed, .error .malformed)
  | whole => readFraction negative whole rest

/-! ### Strings -/

/-- The value of a hexadecimal digit. -/
def hexValue? (c : Char) : Option Nat :=
  if c.isDigit then some (c.toNat - '0'.toNat)
  else if 'a' ≤ c && c ≤ 'f' then some (c.toNat - 'a'.toNat + 10)
  else if 'A' ≤ c && c ≤ 'F' then some (c.toNat - 'A'.toNat + 10)
  else none

/-- The four digits of a `\u` escape. The escape takes four bytes, whatever they are, and is cut off
where fewer are left. -/
def readUnit (text : List Char) : Reading Nat :=
  match (text.take 4).map hexValue? with
  | [some a, some b, some c, some d] => (16 * (16 * (16 * a + b) + c) + d, .ok (text.drop 4))
  | _ =>
    let bytes := (text.take 4).foldl (fun n c => n + c.utf8Size) 0
    (0, .error (if bytes < 4 then .truncated else .malformed))

/-- The character of a one-letter escape. -/
def unescape? : Char → Option Char
  | '"' => some '"'
  | '\\' => some '\\'
  | '/' => some '/'
  | 'b' => some '\x08'
  | 'f' => some '\x0c'
  | 'n' => some '\n'
  | 'r' => some '\r'
  | 't' => some '\t'
  | _ => none

/-- The characters and `\u` units of a string up to its closing quote. -/
def readUnits : Nat → List Char → Reading (List (Char ⊕ Nat))
  | 0, _ => ([], .error .truncated)
  | _ + 1, [] => ([], .error .truncated)
  | fuel + 1, c :: rest =>
    if c = '"' then ([], .ok rest)
    else if c = '\\' then
      match rest with
      | [] => ([], .error .truncated)
      | 'u' :: rest =>
        match readUnit rest with
        | (_, .error fault) => ([], .error fault)
        | (unit, .ok rest) =>
          let (units, after) := readUnits fuel rest
          (.inr unit :: units, after)
      | e :: rest =>
        match unescape? e with
        | none => ([], .error .malformed)
        | some c =>
          let (units, after) := readUnits fuel rest
          (.inl c :: units, after)
    else if c.toNat < 0x20 then ([], .error .malformed)
    else
      let (units, after) := readUnits fuel rest
      (.inl c :: units, after)

def isLeading (unit : Nat) : Bool := 0xD800 ≤ unit && unit ≤ 0xDBFF

def isTrailing (unit : Nat) : Bool := 0xDC00 ≤ unit && unit ≤ 0xDFFF

/-- The characters of some units; none if a surrogate has no partner. -/
def joinUnits? : List (Char ⊕ Nat) → Option (List Char)
  | [] => some []
  | .inl c :: rest => (joinUnits? rest).map (c :: ·)
  | .inr high :: .inr low :: rest =>
    if isLeading high then
      if isTrailing low then
        let code := 0x10000 + (high - 0xD800) * 0x400 + (low - 0xDC00)
        (joinUnits? rest).map (Char.ofNat code :: ·)
      else none
    else if isTrailing high then none
    else (joinUnits? (.inr low :: rest)).map (Char.ofNat high :: ·)
  | .inr unit :: rest =>
    if isLeading unit || isTrailing unit then none
    else (joinUnits? rest).map (Char.ofNat unit :: ·)

/-- The units without a leading surrogate at their end. -/
def dropOpen (units : List (Char ⊕ Nat)) : List (Char ⊕ Nat) :=
  match units.getLast? with
  | some (.inr unit) => if isLeading unit then units.dropLast else units
  | _ => units

/-- A string, after its opening quote, unless it has no value. -/
def readString (text : List Char) : Reading (Option String) :=
  let (units, after) := readUnits (text.length + 1) text
  let units := if (stop? after).isSome then dropOpen units else units
  ((joinUnits? units).map String.ofList, after)

/-- The rest of a word such as `null`. -/
def readWord (node : Document) : List Char → List Char → Reading Document
  | [], text => (node, .ok text)
  | _, [] => (.garbled .truncated, .error .truncated)
  | e :: expected, c :: rest =>
    if e = c then readWord node expected rest else (.garbled .malformed, .error .malformed)

/-! ### Values -/

/-- A node below the deepest level has no value. -/
def limitDepth (depth : Nat) (node : Document) : Document :=
  if depth ≤ maxDepth then node else .unreadable

mutual

/-- The value that a text starts with, at a depth of nesting. The fuel is more than twice the length
of the text, since a field takes two steps. -/
def readValue : Nat → Nat → List Char → Reading Document
  | 0, _, _ => (.missing .truncated, .error .truncated)
  | fuel + 1, depth, text =>
    match skipBlanks text with
    | [] => (.missing .truncated, .error .truncated)
    | c :: rest =>
      match c with
      | 'n' => readWord .null ['u', 'l', 'l'] rest
      | 't' => readWord (.bool true) ['r', 'u', 'e'] rest
      | 'f' => readWord (.bool false) ['a', 'l', 's', 'e'] rest
      | '-' => readNumber true rest
      | '"' =>
        match readString rest with
        | (some value, .ok rest) => (.str value, .ok rest)
        | (none, .ok rest) => (.unreadable, .ok rest)
        | (some _, .error fault) => (.missing fault, .error fault)
        | (none, .error fault) => (.unreadable, .error fault)
      | '[' =>
        let (items, after) := readItems fuel (depth + 1) true rest
        (limitDepth (depth + 1) (.arr items (stop? after)), after)
      | '{' =>
        let (fields, after) := readFields fuel (depth + 1) true rest
        (limitDepth (depth + 1) (.obj fields (stop? after)), after)
      | c =>
        if c.isDigit then readNumber false (c :: rest)
        else (.missing .malformed, .error .malformed)

/-- The items of an array up to its closing bracket. -/
def readItems : Nat → Nat → Bool → List Char → Reading (List Document)
  | 0, _, _, _ => ([], .error .truncated)
  | fuel + 1, depth, first, text =>
    match skipBlanks text with
    | [] => ([], .error .truncated)
    | ']' :: rest => ([], .ok rest)
    | c :: rest =>
      if first || c = ',' then
        match readValue fuel depth (if first then c :: rest else rest) with
        | (item, .error fault) => ([item], .error fault)
        | (item, .ok rest) =>
          let (items, after) := readItems fuel depth false rest
          (item :: items, after)
      else ([], .error .malformed)

/-- The fields of an object up to its closing brace. -/
def readFields : Nat → Nat → Bool → List Char →
    Reading (List (Except Fault String × Document))
  | 0, _, _, _ => ([], .error .truncated)
  | fuel + 1, depth, first, text =>
    match skipBlanks text with
    | [] => ([], .error .truncated)
    | '}' :: rest => ([], .ok rest)
    | c :: rest =>
      if first || c = ',' then
        match readField fuel depth (if first then c :: rest else skipBlanks rest) with
        | (field, .error fault) => ([field], .error fault)
        | (field, .ok rest) =>
          let (fields, after) := readFields fuel depth false rest
          (field :: fields, after)
      else ([], .error .malformed)

/-- A name, a colon and a value. -/
def readField : Nat → Nat → List Char → Reading (Except Fault String × Document)
  | 0, _, _ => ((.error .truncated, .missing .truncated), .error .truncated)
  | fuel + 1, depth, text =>
    match text with
    | [] => ((.error .truncated, .missing .truncated), .error .truncated)
    | '"' :: text =>
      match readString text with
      | (some _, .error fault) => ((.error fault, .missing fault), .error fault)
      | (none, .error fault) => ((.error .malformed, .missing fault), .error fault)
      | (name?, .ok rest) =>
        let name := match name? with
          | some name => .ok name
          | none => .error .malformed
        match skipBlanks rest with
        | [] => ((name, .missing .truncated), .error .truncated)
        | ':' :: rest =>
          match readValue fuel depth rest with
          | (value, after) => ((name, value), after)
        | _ => ((name, .missing .malformed), .error .malformed)
    | _ => ((.error .malformed, .missing .malformed), .error .malformed)

end

/-- The document of a text, and the fault of what follows its value. -/
def read (text : String) : Document × Option Fault :=
  let chars := text.toList
  match readValue (2 * chars.length + 1) 0 chars with
  | (document, .error fault) => (document, some fault)
  | (document, .ok rest) =>
    (document, if (skipBlanks rest).isEmpty then none else some .malformed)

mutual

/-- The document that writes a value. -/
def ofJson : Json → Document
  | .null => .null
  | .bool value => .bool value
  | .num value => .num value
  | .str value => .str value
  | .arr items => .arr (ofItems items) none
  | .obj fields => .obj (ofFields fields) none

def ofItems : List Json → List Document
  | [] => []
  | item :: rest => ofJson item :: ofItems rest

def ofFields : List (String × Json) → List (Except Fault String × Document)
  | [] => []
  | (name, value) :: rest => (.ok name, ofJson value) :: ofFields rest

end

end Document

end Formwork
