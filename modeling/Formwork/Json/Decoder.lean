import Formwork.Json.Document

/-!
# Data in JSON documents

A `Decoder` finds data of one type in a document. Of several faults it reports the one that lies
first in the text. `Parts` describes the fields of a record; a record is written as an object, where
unknown fields are passed over and none may occur twice, or as the array of its fields in order.
-/

namespace Formwork

/-- The data of a document, or the first fault. -/
abbrev Decoder (α : Type) := Document → Except Fault α

namespace Decoder

variable {α : Type}

/-- The fault of a document in which something else is looked for. -/
def reject (document : Document) : Except Fault α :=
  match document with
  | .missing fault | .garbled fault => .error fault
  | .unreadable => .error .malformed
  | _ => .error .mismatch

def text : Decoder String
  | .str value => .ok value
  | document => reject document

def flag : Decoder Bool
  | .bool value => .ok value
  | document => reject document

/-- A non-negative integer. -/
def natural : Decoder Nat
  | .num value =>
    match value.toNat? with
    | some n => .ok n
    | none => .error .mismatch
  | document => reject document

/-- A value, or `null` for none. -/
def optional (decode : Decoder α) : Decoder (Option α)
  | .null => .ok none
  | document => (decode document).map some

/-- What follows the items or fields that could be read. -/
def finish (stop : Option Fault) (value : α) : Except Fault α :=
  match stop with
  | none => .ok value
  | some fault => .error fault

/-- An array of values of one type. -/
def list (decode : Decoder α) : Decoder (List α)
  | .arr items stop => do finish stop (← items.mapM decode)
  | document => reject document

/-- An object whose fields all have values of one type. A repeated name keeps its place and takes
the last value. -/
def fields (decode : Decoder α) : Decoder (Fields α)
  | .obj entries stop => do
    let found ← entries.mapM fun (name, document) => do return (← name, ← decode document)
    finish stop (Fields.setAll [] found)
  | document => reject document

mutual

/-- Any value. -/
def json : Decoder Json
  | .null => .ok .null
  | .bool value => .ok (.bool value)
  | .num value => .ok (.num value)
  | .str value => .ok (.str value)
  | .arr items stop => do finish stop (.arr (← jsonItems items))
  | .obj entries stop => do finish stop (.obj (Fields.setAll [] (← jsonFields entries)))
  | .unreadable => .error .malformed
  | .missing fault | .garbled fault => .error fault

def jsonItems : List Document → Except Fault (List Json)
  | [] => .ok []
  | item :: rest => do return (← json item) :: (← jsonItems rest)

def jsonFields : List (Except Fault String × Document) → Except Fault (List (String × Json))
  | [] => .ok []
  | (name, value) :: rest => do return (← name, ← json value) :: (← jsonFields rest)

end

/-- An object of any values. -/
def object : Decoder (Fields Json) := fields json

/-- One of some words, as a string or as the only name of an object with the value `null`. The text
of anything else is malformed, whatever it is. -/
def word (meaning : String → Option α) : Decoder α
  | .str name => found name
  | .obj [] stop => .error (stop.getD .malformed)
  | .obj ((name, value) :: rest) stop => do
    let result ← found (← name)
    match value with
    | .null => if rest.isEmpty then finish stop result else .error .malformed
    | document => reject document
  | .missing fault => .error fault
  | _ => .error .malformed
where
  found (name : String) : Except Fault α :=
    match meaning name with
    | some value => .ok value
    | none => .error .mismatch

/-! ### Records -/

/-- The values of a record's fields with their places in the text, and how many were read. -/
structure Slots where
  fields : List (String × Nat × Document)
  count : Nat

/-- What the fields of a record hold: their names in order, and how to find the data in them. A
fault comes with its place. -/
structure Parts (α : Type) where
  names : List String
  find : Slots → Except (Nat × Fault) α

namespace Parts

variable {β : Type}

/-- Data that no field is needed for. -/
def pure (value : α) : Parts α := ⟨[], fun _ => .ok value⟩

/-- The data of more fields; of two faults the one at the lower place counts. -/
def ap (f : Parts (α → β)) (x : Parts α) : Parts β where
  names := f.names ++ x.names
  find slots :=
    match f.find slots, x.find slots with
    | .ok f, .ok x => .ok (f x)
    | .error a, .ok _ => .error a
    | .ok _, .error b => .error b
    | .error a, .error b => .error (if b.1 < a.1 then b else a)

/-- A field that may be absent. -/
def field (name : String) (decode : Decoder α) (absent : Option α) : Parts α where
  names := [name]
  find slots :=
    match slots.fields.lookup name with
    | some (place, document) => (decode document).mapError ((place, ·))
    | none =>
      match absent with
      | some value => .ok value
      | none => .error (slots.count, .mismatch)

end Parts

/-- A field that must be there. -/
def required (name : String) (decode : Decoder α) : Parts α := .field name decode none

/-- A field with a value for when it is absent. -/
def withDefault (name : String) (decode : Decoder α) (absent : α) : Parts α :=
  .field name decode (some absent)

/-- A field that may be absent or `null`. -/
def maybe (name : String) (decode : Decoder α) : Parts (Option α) :=
  .field name (optional decode) (some none)

/-- The known fields of an object in the order of the text, up to the first unreadable or repeated
name. -/
def collect (names : List String) (place : Nat) (seen : List (String × Nat × Document))
    (stop : Option Fault) : List (Except Fault String × Document) → Slots × Option Fault
  | [] => (⟨seen, place⟩, stop)
  | (.error fault, _) :: _ => (⟨seen, place⟩, some fault)
  | (.ok name, document) :: rest =>
    if names.contains name then
      if (seen.lookup name).isSome then (⟨seen, place⟩, some .mismatch)
      else collect names (place + 1) (seen ++ [(name, place, document)]) stop rest
    else collect names (place + 1) seen stop rest

/-- The items of an array as fields. -/
def collectItems (names : List String) (items : List Document) (stop : Option Fault) :
    Slots × Option Fault :=
  let fields := (names.zip items).mapIdx fun place (name, document) => (name, place, document)
  (⟨fields, fields.length⟩, if names.length < items.length then some .malformed else stop)

/-- A record of the given parts. -/
def record (parts : Parts α) : Decoder α := fun document =>
  let found : Except Fault (Slots × Option Fault) :=
    match document with
    | .obj entries stop => .ok (collect parts.names 0 [] stop entries)
    | .arr items stop => .ok (collectItems parts.names items stop)
    | document => reject document
  match found with
  | .error fault => .error fault
  | .ok (slots, stop) =>
    match parts.find slots, stop with
    | .ok value, stop => finish stop value
    | .error (place, fault), some stop => .error (if place < slots.count then fault else stop)
    | .error (_, fault), none => .error fault

/-- The data in a text, which must hold nothing else. -/
def run (decode : Decoder α) (source : String) : Except Fault α :=
  match Document.read source with
  | (document, trailing) => do finish trailing (← decode document)

/-- The data in a value. A value is well formed, so whatever is wrong with it is its shape. -/
def runValue (decode : Decoder α) (value : Json) : Except Fault α :=
  (decode (Document.ofJson value)).mapError fun _ => .mismatch

end Decoder

/-- The value that a text writes. -/
def Json.parse (source : String) : Except Fault Json := Decoder.run Decoder.json source

end Formwork
