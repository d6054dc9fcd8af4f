import Formwork.Definition.Basic
import Formwork.Json.Decoder

/-!
# Definitions as JSON

Each part of a definition is a record; `encode` writes it and `decode` reads it. Optional fields
without a value and empty lists are not written.
-/

namespace Formwork

open Decoder

/-- The fields of a record under way, without those that have nothing to say. -/
def Fields.present (fields : List (String × Option Json)) : Json :=
  .obj (fields.filterMap fun (name, value) => value.map ((name, ·)))

namespace Limits

def parts : Parts Limits :=
  (Parts.pure Limits.mk)
    |>.ap (withDefault "time_budget_ms" natural ({} : Limits).timeBudgetMs)
    |>.ap (withDefault "max_steps" natural ({} : Limits).maxSteps)
    |>.ap (withDefault "max_memory_bytes" natural ({} : Limits).maxMemoryBytes)

def decode : Decoder Limits := record parts

def encode (limits : Limits) : Json :=
  .obj [("time_budget_ms", .int limits.timeBudgetMs), ("max_steps", .int limits.maxSteps),
    ("max_memory_bytes", .int limits.maxMemoryBytes)]

end Limits

namespace Definition

namespace Rule

def parts : Parts Rule :=
  (Parts.pure Rule.mk)
    |>.ap (required "expr" text)
    |>.ap (withDefault "depends_on" (list text) [])

def decode : Decoder Rule := record parts

def encode (rule : Rule) : Json :=
  Fields.present [("expr", some (.str rule.expr)),
    ("depends_on", if rule.dependsOn.isEmpty then none else some (.texts rule.dependsOn))]

end Rule

namespace Choice

def parts : Parts Choice :=
  (Parts.pure Choice.mk)
    |>.ap (required "value" json)
    |>.ap (required "label" text)
    |>.ap (maybe "disabled" Rule.decode)
    |>.ap (maybe "visible" Rule.decode)

def decode : Decoder Choice := record parts

def encode (choice : Choice) : Json :=
  Fields.present [("value", some choice.value), ("label", some (.str choice.label)),
    ("disabled", choice.disabled.map Rule.encode), ("visible", choice.visible.map Rule.encode)]

end Choice

namespace Check

def parts : Parts Check :=
  (Parts.pure Check.mk)
    |>.ap (required "kind" (word CheckKind.ofName?))
    |>.ap (required "rule" text)
    |>.ap (required "message" text)
    |>.ap (withDefault "depends_on" (list text) [])

def decode : Decoder Check := record parts

def encode (check : Check) : Json :=
  Fields.present [("kind", some (.str check.kind.name)), ("rule", some (.str check.rule)),
    ("message", some (.str check.message)),
    ("depends_on", if check.dependsOn.isEmpty then none else some (.texts check.dependsOn))]

end Check

namespace Item

def parts : Parts Item :=
  (Parts.pure Item.mk)
    |>.ap (required "id" text)
    |>.ap (required "type" (word Kind.ofName?))
    |>.ap (maybe "label" text)
    |>.ap (maybe "answer_id" text)
    |>.ap (maybe "default_value" json)
    |>.ap (withDefault "props" object [])
    |>.ap (maybe "visible" Rule.decode)
    |>.ap (maybe "read_only" Rule.decode)
    |>.ap (maybe "value" Rule.decode)
    |>.ap (maybe "choices" Rule.decode)
    |>.ap (withDefault "options" (list Choice.decode) [])
    |>.ap (withDefault "validation" (list Check.decode) [])
    |>.ap (maybe "next_view" Rule.decode)
    |>.ap (withDefault "include_when_hidden" flag false)

def decode : Decoder Item := record parts

def encode (item : Item) : Json :=
  Fields.present [("id", some (.str item.id)), ("type", some (.str item.kind.name)),
    ("label", item.label.map .str), ("answer_id", item.answerId.map .str),
    ("default_value", item.defaultValue),
    ("props", if item.props.isEmpty then none else some (.obj item.props)),
    ("visible", item.visible.map Rule.encode), ("read_only", item.readOnly.map Rule.encode),
    ("value", item.value.map Rule.encode), ("choices", item.choices.map Rule.encode),
    ("options",
      if item.options.isEmpty then none else some (.arr (item.options.map Choice.encode))),
    ("validation",
      if item.validation.isEmpty then none else some (.arr (item.validation.map Check.encode))),
    ("next_view", item.nextView.map Rule.encode),
    ("include_when_hidden", some (.bool item.includeWhenHidden))]

end Item

namespace View

def parts : Parts View :=
  (Parts.pure View.mk)
    |>.ap (required "id" text)
    |>.ap (maybe "title" text)
    |>.ap (withDefault "hide_from_menu" flag false)
    |>.ap (maybe "visible" Rule.decode)
    |>.ap (maybe "next_view" Rule.decode)
    |>.ap (withDefault "items" (list Item.decode) [])

def decode : Decoder View := record parts

def encode (view : View) : Json :=
  Fields.present [("id", some (.str view.id)), ("title", view.title.map .str),
    ("hide_from_menu", some (.bool view.hideFromMenu)),
    ("visible", view.visible.map Rule.encode), ("next_view", view.nextView.map Rule.encode),
    ("items", some (.arr (view.items.map Item.encode)))]

end View

def parts : Parts Definition :=
  (Parts.pure Definition.mk)
    |>.ap (required "id" text)
    |>.ap (required "title" text)
    |>.ap (required "version" text)
    |>.ap (maybe "description" text)
    |>.ap (maybe "limits" Limits.decode)
    |>.ap (withDefault "initial_values" object [])
    |>.ap (required "views" (list View.decode))

def decode : Decoder Definition := record parts

def encode (definition : Definition) : Json :=
  Fields.present [("id", some (.str definition.id)), ("title", some (.str definition.title)),
    ("version", some (.str definition.version)),
    ("description", definition.description.map .str),
    ("limits", definition.limits.map Limits.encode),
    ("initial_values",
      if definition.initialValues.isEmpty then none else some (.obj definition.initialValues)),
    ("views", some (.arr (definition.views.map View.encode)))]

end Definition

end Formwork
