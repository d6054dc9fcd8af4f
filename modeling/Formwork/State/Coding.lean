import Formwork.Json.Decoder
import Formwork.State.Basic

/-!
# States as JSON

A state is a record; `State.encode` writes it and `State.decode` reads it. Messages about the form
as a whole are not written when there are none.
-/

namespace Formwork

open Decoder

namespace NameMap

variable {α : Type}

/-- A map as an object. -/
def encode (encodeValue : α → Json) (map : NameMap α) : Json :=
  .obj (map.entries.map fun (name, value) => (name, encodeValue value))

def decode (decodeValue : Decoder α) : Decoder (NameMap α) := fun document => do
  return .ofList (← fields decodeValue document)

end NameMap

namespace NameSet

/-- A set as an array. -/
def encode (set : NameSet) : Json := .texts set.names

def decode : Decoder NameSet := fun document => do return .ofNames (← list text document)

end NameSet

namespace Messages

def encode (messages : Messages) : Json := NameMap.encode .texts messages

def decode : Decoder Messages := NameMap.decode (list text)

end Messages

namespace Offer

def parts : Parts Offer :=
  (Parts.pure Offer.mk)
    |>.ap (required "value" json)
    |>.ap (required "label" text)
    |>.ap (withDefault "disabled" flag false)
    |>.ap (withDefault "visible" flag true)

def decode : Decoder Offer := record parts

def encode (offer : Offer) : Json :=
  .obj [("value", offer.value), ("label", .str offer.label), ("disabled", .bool offer.disabled),
    ("visible", .bool offer.visible)]

end Offer

namespace State

def parts : Parts State :=
  (Parts.pure State.mk)
    |>.ap (required "values" object)
    |>.ap (required "visibility" (NameMap.decode flag))
    |>.ap (required "read_only" (NameMap.decode flag))
    |>.ap (required "errors" Messages.decode)
    |>.ap (withDefault "form_errors" (list text) [])
    |>.ap (required "choices" (NameMap.decode (list Offer.decode)))
    |>.ap (required "current_view" text)
    |>.ap (required "completed_views" NameSet.decode)
    |>.ap (required "revision" natural)

def decode : Decoder State := record parts

def encode (state : State) : Json :=
  .obj ([("values", .obj state.values), ("visibility", state.visibility.encode .bool),
    ("read_only", state.readOnly.encode .bool), ("errors", state.errors.encode)] ++
    (if state.formErrors.isEmpty then [] else [("form_errors", .texts state.formErrors)]) ++
    [("choices", state.choices.encode fun offers => .arr (offers.map Offer.encode)),
    ("current_view", .str state.currentView), ("completed_views", state.completedViews.encode),
    ("revision", .int state.revision)])

end State

end Formwork
