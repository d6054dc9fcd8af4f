import Formwork.Proofs.Form.Load

/-!
# Another expression for a rule

`Definition.substitute` puts an expression in the place of that of one derived rule, and the rule goes on
declaring what it has declared. What is wrong with a definition and which rule reads which answer is said by
the declarations and not by the expressions. So the definition still loads, with the same index, and its items
are those of before but for that one expression (`Form.exists_load_substitute`).
-/

namespace Formwork

namespace Definition

/-- The places for the derived rules of an item. The rules of a choice go by its place among the options. -/
inductive Place where
  | visible
  | readOnly
  | value
  | choices
  | disabled (choice : Nat)
  | offered (choice : Nat)
deriving Repr, DecidableEq

/-- The expression that a rule at a place is as good as when it fails. -/
def Place.fallback : Place → String
  | .value | .choices => "null"
  | .visible | .readOnly | .disabled _ | .offered _ => "false"

/-- The rule with another expression. -/
def Rule.withExpr (expr : String) (rule : Rule) : Rule := { rule with expr }

namespace Item

/-- The rule at a place. -/
def ruleAt? (item : Item) : Place → Option Rule
  | .visible => item.visible
  | .readOnly => item.readOnly
  | .value => item.value
  | .choices => item.choices
  | .disabled choice => item.options[choice]?.bind (·.disabled)
  | .offered choice => item.options[choice]?.bind (·.visible)

/-- The item with another expression for the rule at a place, if there is one. -/
def withExpr (place : Place) (expr : String) (item : Item) : Item :=
  match place with
  | .visible => { item with visible := item.visible.map (.withExpr expr) }
  | .readOnly => { item with readOnly := item.readOnly.map (.withExpr expr) }
  | .value => { item with value := item.value.map (.withExpr expr) }
  | .choices => { item with choices := item.choices.map (.withExpr expr) }
  | .disabled choice =>
    { item with options := item.options.modify choice fun choice =>
        { choice with disabled := choice.disabled.map (.withExpr expr) } }
  | .offered choice =>
    { item with options := item.options.modify choice fun choice =>
        { choice with visible := choice.visible.map (.withExpr expr) } }

variable {item : Item} {place : Place} {expr : String} {rule : Rule}

/-- The places are those of the derived rules. -/
theorem exists_ruleAt?_iff : (∃ place, item.ruleAt? place = some rule) ↔ rule ∈ item.derivedRules := by
  simp only [derivedRules, List.mem_append, Option.mem_toList, List.mem_flatMap]
  constructor
  · rintro ⟨place, hrule⟩
    cases place with
    | visible => exact .inl (.inl (.inl (.inl hrule)))
    | readOnly => exact .inl (.inl (.inl (.inr hrule)))
    | value => exact .inl (.inl (.inr hrule))
    | choices => exact .inl (.inr hrule)
    | disabled place =>
      obtain ⟨choice, hchoice, hrule⟩ := Option.bind_eq_some_iff.1 hrule
      exact .inr ⟨choice, List.mem_of_getElem? hchoice, .inl hrule⟩
    | offered place =>
      obtain ⟨choice, hchoice, hrule⟩ := Option.bind_eq_some_iff.1 hrule
      exact .inr ⟨choice, List.mem_of_getElem? hchoice, .inr hrule⟩
  · rintro ((((hrule | hrule) | hrule) | hrule) | ⟨choice, hchoice, hrule⟩)
    · exact ⟨.visible, hrule⟩
    · exact ⟨.readOnly, hrule⟩
    · exact ⟨.value, hrule⟩
    · exact ⟨.choices, hrule⟩
    · obtain ⟨place, hplace⟩ := List.getElem?_of_mem hchoice
      rcases hrule with hrule | hrule
      · exact ⟨.disabled place, Option.bind_eq_some_iff.2 ⟨choice, hplace, hrule⟩⟩
      · exact ⟨.offered place, Option.bind_eq_some_iff.2 ⟨choice, hplace, hrule⟩⟩

theorem ruleAt?_withExpr :
    (item.withExpr place expr).ruleAt? place = (item.ruleAt? place).map (.withExpr expr) := by
  cases place with
  | visible | readOnly | value | choices => rfl
  | disabled place | offered place =>
    simp only [withExpr, ruleAt?, List.getElem?_modify, if_pos]
    cases item.options[place]? <;> rfl

theorem flatMap_modify_eq {α β : Type} {f : α → α} {g : α → List β} (h : ∀ a, g (f a) = g a) (place : Nat)
    (list : List α) : (list.modify place f).flatMap g = list.flatMap g := by
  rw [List.flatMap_def, List.flatMap_def]
  refine congrArg List.flatten (List.ext_getElem? fun i => ?_)
  rw [List.getElem?_map, List.getElem?_modify, List.getElem?_map]
  cases list[i]? with
  | none => rfl
  | some a =>
    show some (g (if place = i then f a else a)) = some (g a)
    split
    · rw [h]
    · rfl

theorem declaration_withExpr (slot : Slot) (rule : Option Rule) :
    Rule.declaration slot (rule.map (.withExpr expr)) = Rule.declaration slot rule := by
  cases rule <;> rfl

/-- Items that say the same but for the expressions of their derived rules. -/
structure Declares (item other : Item) : Prop where
  id : other.id = item.id
  answer? : other.answer? = item.answer?
  validation : other.validation = item.validation
  declarations : other.declarations = item.declarations

theorem withExpr_declares (place : Place) (expr : String) (item : Item) :
    item.Declares (item.withExpr place expr) := by
  cases place with
  | visible | readOnly | value | choices =>
    refine ⟨rfl, rfl, rfl, ?_⟩
    simp only [withExpr, declarations, declaration_withExpr]
  | disabled | offered =>
    refine ⟨rfl, rfl, rfl, ?_⟩
    simp only [withExpr, declarations, declaration_withExpr, flatMap_modify_eq, implies_true]

end Item

/-! ### Definitions with other items -/

/-- The view with other items in their places. -/
def View.mapItems (f : Item → Item) (view : View) : View := { view with items := view.items.map f }

/-- The definition with other items in their places. -/
def mapItems (f : Item → Item) (definition : Definition) : Definition :=
  { definition with views := definition.views.map (.mapItems f) }

/-- The definition with another expression for the rule at a place of the item of an id. -/
def substitute (definition : Definition) (id : String) (place : Place) (expr : String) : Definition :=
  definition.mapItems fun item => if item.id = id then item.withExpr place expr else item

variable {definition : Definition} {f : Item → Item}

theorem substitutes_declares (id : String) (place : Place) (expr : String) (item : Item) :
    item.Declares (if item.id = id then item.withExpr place expr else item) := by
  split
  · exact item.withExpr_declares place expr
  · exact ⟨rfl, rfl, rfl, rfl⟩

theorem items_mapItems : (definition.mapItems f).items = definition.items.map f := by
  rw [items, items, mapItems, List.flatMap_map, List.map_flatMap]
  rfl

section
variable (hf : ∀ item, Item.Declares item (f item))
include hf

theorem declarations_mapItems : (definition.mapItems f).declarations = definition.declarations := by
  have hviews : (definition.mapItems f).views = definition.views.map (.mapItems f) := rfl
  rw [declarations, items_mapItems, hviews, List.zipIdx_map, List.zipIdx_map, List.flatMap_map,
    List.flatMap_map, declarations]
  simp only [Prod.map, (hf _).declarations]
  rfl

/-- A definition stays sound where its items go on declaring what they have declared. -/
theorem IsSound.mapItems (h : definition.IsSound) : (definition.mapItems f).IsSound where
  views_ne_nil hnil := h.views_ne_nil (List.map_eq_nil_iff.1 hnil)
  nodup_views := by
    have hids : (definition.mapItems f).views.map (·.id) = definition.views.map (·.id) := List.map_map
    rw [hids]
    exact h.nodup_views
  nodup_items := by
    have hids : (definition.mapItems f).items.map (·.id) = definition.items.map (·.id) := by
      rw [items_mapItems, List.map_map]
      exact List.map_congr_left fun item _ => (hf item).id
    rw [hids]
    exact h.nodup_items
  nodup_answers := by
    have hanswers : (definition.mapItems f).items.filterMap (·.answer?) =
        definition.items.filterMap (·.answer?) := by
      rw [items_mapItems, List.filterMap_map]
      exact List.filterMap_congr fun item _ => (hf item).answer?
    rw [hanswers]
    exact h.nodup_answers
  selfless other hother := by
    rw [items_mapItems] at hother
    obtain ⟨item, hitem, rfl⟩ := List.mem_map.1 hother
    have hnamed : (f item).isNamed = item.isNamed := by
      funext id
      rw [Item.isNamed, (hf item).id, (hf item).answer?, Item.isNamed]
    have hsame : (f item).selfDependencies = item.selfDependencies := by
      rw [Item.selfDependencies, (hf item).declarations, hnamed, (hf item).id, Item.selfDependencies]
    rw [← Item.selfDependencies_eq_nil_iff, hsame, Item.selfDependencies_eq_nil_iff]
    exact h.selfless item hitem
  readable other hother check hcheck := by
    rw [items_mapItems] at hother
    obtain ⟨item, hitem, rfl⟩ := List.mem_map.1 hother
    rw [(hf item).validation] at hcheck
    exact h.readable item hitem check hcheck

end

end Definition

/-! ### Forms with other items -/

namespace Form

variable {form : Form} {f : Definition.Item → Definition.Item}

/-- An item at the place of another one. -/
def Item.remade (f : Definition.Item → Definition.Item) (item : Item) : Item :=
  .ofDefinition item.index item.view (f item.source)

theorem View.items_ofDefinitions_mapItems (index firstItem : Nat) (views : List Definition.View) :
    (ofDefinitions index firstItem (views.map (.mapItems f))).flatMap (·.items) =
      ((ofDefinitions index firstItem views).flatMap (·.items)).map (Item.remade f) := by
  induction views generalizing index firstItem with
  | nil => rfl
  | cons view views ih =>
    have hlength : (view.mapItems f).items.length = view.items.length := List.length_map _
    have hitems : (ofDefinition index firstItem (view.mapItems f)).items =
        (ofDefinition index firstItem view).items.map (Item.remade f) := by
      refine List.ext_getElem? fun i => ?_
      rw [ofDefinition, Definition.View.mapItems, List.getElem?_mapIdx, List.getElem?_map, ofDefinition,
        List.getElem?_map, List.getElem?_mapIdx]
      cases view.items[i]? <;> rfl
    rw [List.map_cons, ofDefinitions, ofDefinitions, List.flatMap_cons, List.flatMap_cons, List.map_append,
      hitems, hlength, ih]

/-- A form can be made with another expression for a rule. It has the same index, and its items are those of
the form with that one changed. -/
theorem exists_load_substitute (form : Form) (id : String) (place : Definition.Place) (expr : String) :
    ∃ other, load (form.definition.substitute id place expr) = .ok other ∧ other.index = form.index ∧
      other.items = form.items.map
        (Item.remade fun item => if item.id = id then item.withExpr place expr else item) := by
  have hdeclares := Definition.substitutes_declares id place expr
  have hsound := (Definition.flaws_eq_nil_iff.1 form.sound).mapItems hdeclares
  obtain ⟨other, hload⟩ := exists_load_iff.2 (Definition.flaws_eq_nil_iff.2 hsound)
  have hdefinition : other.definition = form.definition.substitute id place expr := definition_of_load hload
  refine ⟨other, hload, ?_, ?_⟩
  · rw [other.index_eq, hdefinition, form.index_eq, DependencyIndex.ofDefinition, DependencyIndex.ofDefinition,
      Definition.substitute, Definition.declarations_mapItems hdeclares]
  · rw [other.items_eq, other.views_eq, hdefinition, form.items_eq, form.views_eq]
    exact View.items_ofDefinitions_mapItems 0 0 form.definition.views

end Form
end Formwork
