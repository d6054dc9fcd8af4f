import Formwork.Expr.Value
import Formwork.Form.Basic
import Formwork.State.Basic

/-!
# What is sent to the host

Each kind of item has a shape in which its answers are sent; `Definition.Item.shape` brings an
answer into the shape of its item, or sends `null`. `Form.payload` collects the answers of a form.
-/

namespace Formwork

namespace Definition.Item

/-- Whether a value is a string, a number or a boolean. -/
def isScalar : Json → Bool
  | .str _ | .num _ | .bool _ => true
  | _ => false

/-- The text of a scalar. -/
def textOf? (value : Json) : Option String := if isScalar value then some value.display else none

/-- A number, or the number that a text writes; `null` for one that is not finite. -/
def numberOf? : Json → Option Json
  | .num n => some (.num n)
  | .str text => (Decimal.readFloat? (Text.trim text)).map Json.ofArithmetic
  | _ => none

/-- A boolean, or the one that a text writes. -/
def flagOf? : Json → Option Json
  | .bool flag => some (.bool flag)
  | .str text =>
    match Text.trim text with
    | "true" => some (.bool true)
    | "false" => some (.bool false)
    | _ => none
  | _ => none

/-- A list of scalars; a single scalar is a list of one. -/
def listOf? : Json → Option Json
  | .arr items => if items.all isScalar then some (.arr items) else none
  | value => if isScalar value then some (.arr [value]) else none

/-- The text of a property of an item. -/
def property? (item : Item) (name : String) : Option String :=
  (Fields.get? item.props name).bind Json.str?

/-- An amount with a currency, which the item names unless the answer does. -/
def moneyOf? (item : Item) (value : Json) : Option Json := do
  let ownCurrency := (value.field? "currency").bind Json.str?
  let amount ←
    match value with
    | .obj fields => (Fields.get? fields "amount").bind numberOf?
    | scalar => numberOf? scalar
  let currency ← ownCurrency <|> item.property? "currency"
  return .obj [("amount", amount), ("currency", .str currency)]

/-- The text in the first field that is there. -/
def fieldText? (fields : Fields Json) (name alternative : String) : Option String :=
  (Fields.get? fields name <|> Fields.get? fields alternative).bind textOf?

/-- A phone number with a country code, which the item names unless the answer does. -/
def phoneOf? (item : Item) (value : Json) : Option Json := do
  let (countryCode, phoneNumber) ←
    match value with
    | .obj fields => do
      let countryCode ←
        fieldText? fields "countryCode" "country_code" <|> item.property? "country_code"
      pure (countryCode, ← fieldText? fields "phoneNumber" "phone_number")
    | .str text => do pure (← item.property? "country_code", text)
    | _ => none
  return .obj [("countryCode", .str countryCode), ("phoneNumber", .str phoneNumber)]

/-- The shape that an answer takes for its item, if it fits. -/
def shape? (item : Item) (value : Json) : Option Json :=
  match item.kind with
  | .text | .textarea | .email | .date | .select | .radio => (textOf? value).map .str
  | .number => numberOf? value
  | .checkbox => flagOf? value
  | .multiselect | .file => listOf? value
  | .money => item.moneyOf? value
  | .phone => item.phoneOf? value
  | .heading | .paragraph | .action => none

/-- The shape in which an answer is sent: `null` for none and for one that does not fit. -/
def shape (item : Item) (value : Json) : Json :=
  if value.isNull then .null else (item.shape? value).getD .null

end Definition.Item

namespace Form

/-- The answer of an item with its id, if it is sent: an item that is not shown keeps its answer to
itself unless it says otherwise. -/
def Item.sent? (item : Item) (state : State) (viewShown : Bool) : Option (String × Json) :=
  item.answer?.bind fun answer =>
    if (viewShown && state.isVisible item.id) || item.source.includeWhenHidden then
      some (answer, item.source.shape ((state.value? answer).getD .null))
    else none

/-- The answers that are sent when the given views are shown, in the order of the items. -/
def payload (form : Form) (state : State) (shown : View → Bool) : Fields Json :=
  form.views.flatMap fun view => view.items.filterMap (·.sent? state (shown view))

end Form

end Formwork
