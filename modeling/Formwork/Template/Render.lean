import Formwork.Decimal.Literal
import Formwork.Template.Helper
import Formwork.Template.Parser

/-!
# Rendering message templates

`Template.render` makes the message of a template. A path that leads to nothing is empty; one that
asks an array for a name fails the whole message, and so does the call of an unknown helper.
-/

namespace Formwork.Template

/-- What a block shows: its value, the variables of the round, and the names it gives. -/
structure Frame where
  value : Json
  counters : Fields Json
  bound : Fields Json

/-- Where rendering stands: the data, the innermost frame and those around it, and the bodies given
to the partial templates that are being rendered. -/
structure Scope where
  root : Json
  here : Frame
  around : List Frame
  bodies : List (List Piece)

/-- Rendering knows the partial templates that were defined so far, and can fail. -/
abbrev Rendering := StateT (Fields (List Piece)) Option

/-- The value of a name: an item of an array by index, a field of an object. An array has nothing
but indices. -/
def step : Option Json → String → Option (Option Json)
  | some (.arr items), name => (Decimal.readIndex? name).map fun index => items[index]?
  | some (.obj fields), name => some (Fields.get? fields name)
  | _, _ => some none

/-- The value at the end of some names. -/
def walk (value : Json) (names : List String) : Option (Option Json) :=
  names.foldlM step (some value)

namespace Scope

/-- A frame with another value inside the scope. -/
def push (scope : Scope) (frame : Frame) : Scope :=
  { scope with here := frame, around := scope.here :: scope.around }

/-- The frame around a number of blocks. -/
def frame? (scope : Scope) (levels : Nat) : Option Frame := (scope.here :: scope.around)[levels]?

/-- The value that a block gives to a name, the innermost block first. -/
def bound? (scope : Scope) (name : String) : Option Json :=
  (scope.here :: scope.around).findSome? (Fields.get? ·.bound name)

/-- The value of a path, if there is one; no answer where the path is not possible. A path that
leads out of more blocks than there are stays where it is. -/
def resolve (scope : Scope) : Target → Option (Option Json)
  | .value .root names => walk scope.root names
  | .value (.around levels) names =>
    match names.head?.bind scope.bound? with
    | some value => walk value names.tail
    | none => walk ((scope.frame? levels).getD scope.here).value names
  | .counter levels name =>
    some ((scope.frame? levels).bind fun frame => Fields.get? frame.counters name)

mutual

/-- The value of an argument, if there is one; no answer where it cannot be found out. -/
def evaluate (scope : Scope) : Param → Option (Option Json)
  | .literal value => some (some value)
  | .path path => scope.resolve path.target
  | .call name arguments named => do
    let arguments ← evaluateAll scope arguments
    let named ← evaluateNamed scope named
    let helper ← Helper.ofName? name
    helper.apply arguments named

/-- The values of arguments; a missing one is `null`. -/
def evaluateAll (scope : Scope) : List Param → Option (List Json)
  | [] => some []
  | param :: rest => do
    let value ← evaluate scope param
    let values ← evaluateAll scope rest
    return value.getD .null :: values

/-- The values of arguments by name. -/
def evaluateNamed (scope : Scope) : List (String × Param) → Option (Fields Json)
  | [] => some []
  | (name, param) :: rest => do
    let value ← evaluate scope param
    let values ← evaluateNamed scope rest
    return (name, value.getD .null) :: values

end

/-- The text of a value. Where it stands under the name of a helper, the helper is called; a value
that is found by a call stands under its text. -/
def textOf (scope : Scope) (param : Param) : Option String :=
  match param with
  | .path path =>
    match Helper.ofName? path.written with
    | some helper => (helper.apply [] []).map showFound
    | none => (scope.evaluate param).map showFound
  | _ => do
    let text := showFound (← scope.evaluate param)
    match Helper.ofName? text with
    | some helper => (helper.apply [] []).map showFound
    | none => return text

/-- The name that a definition gives to a partial template. -/
def nameIn (scope : Scope) (call : Call) : Option String := do
  let values ← scope.evaluateAll call.arguments
  let _ ← scope.evaluateNamed call.named
  values.head?.bind Json.str?

/-- The scope of a partial template: its value, which is the current one unless the call gives
another, with the arguments by name as fields. -/
def inside (scope : Scope) (call : Call) (bodies : List (List Piece)) : Option Scope := do
  let values ← scope.evaluateAll call.arguments
  let named ← scope.evaluateNamed call.named
  let value := values.headD scope.here.value
  let merged : Json :=
    match named, value with
    | [], value => value
    | named, .obj fields => .obj (Fields.setAll fields named)
    | named, _ => .obj named
  return { scope with here := ⟨merged, [], []⟩, around := [], bodies := bodies }

end Scope

/-- The rounds of a loop over a value, each with the name of its key, the key and the value. -/
def rounds : Json → List (String × Json × Json)
  | .arr items => items.mapIdx fun index item => ("index", .int index, item)
  | .obj fields => fields.map fun (name, item) => ("key", .str name, item)
  | _ => []

/-- The frames of the rounds of a loop. -/
def frames (binders : List String) (value : Json) : List Frame :=
  let found := rounds value
  found.mapIdx fun index (name, key, item) =>
    { value := item
      counters :=
        [(name, key), ("first", .bool (index == 0)), ("last", .bool (index + 1 == found.length))]
      bound := Fields.setAll [] (binders.zip [item, key]) }

/-- Whether a condition takes zero for true. -/
def includesZero (named : Fields Json) : Bool :=
  match Fields.get? named "includeZero" with
  | some (.bool value) => value
  | _ => false

/-- The name under which a partial template shows the body that is given to it. -/
def bodyName : String := "@partial-block"

/-- Defines the partial templates that stand in a body. -/
def defineAll (scope : Scope) (body : List Piece) : Rendering Unit :=
  body.forM fun piece =>
    match piece with
    | .define call body => do
      let name ← scope.nameIn call
      modify fun partials => Fields.set partials name body
    | .invalid => failure
    | _ => return ()

mutual

/-- The text of a part. The first argument renders partial templates. -/
def renderPiece (inner : Scope → List Piece → Rendering String) (scope : Scope) :
    Piece → Rendering String
  | .text text => return text
  | .value param => scope.textOf param
  | .block call body otherwise => do
    let arguments ← scope.evaluateAll call.arguments
    let named ← scope.evaluateNamed call.named
    let helper ← Helper.ofName? call.name
    let result ← helper.apply arguments named
    let value := arguments.headD .null
    match helper with
    | .if_ =>
      if isTruthy (includesZero named) value then renderAll inner scope body
      else renderAll inner scope otherwise
    | .unless =>
      if isTruthy (includesZero named) value then renderAll inner scope otherwise
      else renderAll inner scope body
    | .with_ =>
      if isTruthy false value then
        let bound := Fields.setAll [] (call.binders.zip [value])
        renderAll inner (scope.push ⟨value, [], bound⟩) body
      else renderAll inner scope otherwise
    | .each =>
      match frames call.binders value with
      | [] => renderAll inner scope otherwise
      | found => do
        let texts ← found.mapM fun frame => renderAll inner (scope.push frame) body
        return String.join texts
    | .raw => renderAll inner scope body
    | _ => return showFound result
  | .insert call => do
    let entered ← scope.inside call scope.bodies
    if call.name = bodyName then
      match scope.bodies with
      | body :: bodies => inner { entered with bodies := bodies } body
      | [] => failure
    else
      let body ← Fields.get? (← get) call.name
      inner entered body
  | .wrap call body => do
    defineAll scope body
    let entered ← scope.inside call (body :: scope.bodies)
    match Fields.get? (← get) call.name with
    | some found => inner entered found
    | none => renderAll inner entered body
  | .define call body => do
    let name ← scope.nameIn call
    modify fun partials => Fields.set partials name body
    return ""
  | .invalid => failure

/-- The text of some parts. -/
def renderAll (inner : Scope → List Piece → Rendering String) (scope : Scope) :
    List Piece → Rendering String
  | [] => return ""
  | piece :: rest => do
    let text ← renderPiece inner scope piece
    let texts ← renderAll inner scope rest
    return text ++ texts

end

/-- The text of some parts, with no more than a number of partial templates inside each other. -/
def renderWithin : Nat → Scope → List Piece → Rendering String
  | 0 => fun _ _ => failure
  | depth + 1 => renderAll (renderWithin depth)

/-- The bound on partial templates inside each other. -/
def maxDepth : Nat := 256

/-- The message of a template for some data. -/
def render (template : String) (data : Json) : Option String := do
  let pieces ← parse template
  (renderWithin maxDepth ⟨data, ⟨data, [], []⟩, [], []⟩ pieces).run' []

end Formwork.Template
