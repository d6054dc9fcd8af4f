import Mathlib.Data.List.Nodup
import Formwork.Definition.Flaw

/-!
# Which definitions are sound

A definition is sound (`Definition.IsSound`) if it has views, if no two views, items or answers share an
id, if no derived rule declares the item that it belongs to, and if its limits of length and its patterns
can be read. Those are the definitions without flaws (`flaws_eq_nil_iff`): the flaws of an item are looked
for in it and in the items before it, so that of two items the later one has the flaw that they share.
-/

namespace Formwork

/-- Decimal digits of an index of 64 bits, with a plus sign before them or without. -/
def Decimal.IsIndex (text : List Char) : Prop :=
  ∃ digits, (text = digits ∨ text = '+' :: digits) ∧ digits ≠ [] ∧ (∀ c ∈ digits, c.isDigit = true) ∧
    ofDigits digits < Nat.pow 2 64

theorem Decimal.isSome_readIndex?_iff {text : String} :
    (readIndex? text).isSome = true ↔ IsIndex text.toList := by
  have hread : ∀ digits : List Char,
      (if (digits.isEmpty || !digits.all Char.isDigit) = true then none
        else if ofDigits digits ≤ maxIndex then some (ofDigits digits) else none).isSome = true ↔
      digits ≠ [] ∧ (∀ c ∈ digits, c.isDigit = true) ∧ ofDigits digits < Nat.pow 2 64 := fun digits => by
    have hbound : ofDigits digits ≤ maxIndex ↔ ofDigits digits < Nat.pow 2 64 :=
      Nat.le_sub_one_iff_lt (Nat.two_pow_pos 64)
    rw [← hbound]
    split
    · rename_i hbad
      simp only [Bool.or_eq_true, List.isEmpty_iff, Bool.not_eq_true', List.all_eq_false] at hbad
      refine ⟨nofun, fun ⟨hne, hall, _⟩ => ?_⟩
      rcases hbad with rfl | ⟨c, hc, hdigit⟩
      · exact absurd rfl hne
      · exact absurd (hall c hc) hdigit
    · rename_i hgood
      simp only [Bool.or_eq_true, List.isEmpty_iff, Bool.not_eq_true', not_or, Bool.not_eq_false,
        List.all_eq_true] at hgood
      split
      · rename_i hle; exact ⟨fun _ => ⟨hgood.1, hgood.2, hle⟩, fun _ => rfl⟩
      · rename_i hle; exact ⟨nofun, fun h => absurd h.2.2 hle⟩
  simp only [readIndex?]
  rw [hread]
  split
  · rename_i rest hplus
    rw [hplus]
    refine ⟨fun h => ⟨rest, .inr rfl, h⟩, fun ⟨digits, htext, h⟩ => ?_⟩
    rcases htext with rfl | htext
    · exact absurd (h.2.1 '+' List.mem_cons_self) (by decide)
    · cases htext; exact h
  · rename_i hplus
    refine ⟨fun h => ⟨_, .inl rfl, h⟩, fun ⟨digits, htext, h⟩ => ?_⟩
    rcases htext with htext | htext
    · rwa [htext]
    · exact absurd htext (hplus digits)

namespace Definition

/-- A validation rule whose limit of length or pattern, if it has one, can be read. Expressions need
not be. -/
def Check.IsReadable (check : Check) : Prop :=
  match check.kind with
  | .optional | .custom => True
  | .maxLength => Decimal.IsIndex (Text.trim check.rule).toList
  | .regexp => ∃ pattern, Pattern.parse check.rule = .ok pattern

theorem Check.flaw?_eq_none_iff {item : String} {check : Check} :
    check.flaw? item = none ↔ check.IsReadable := by
  rw [flaw?, requirement, IsReadable]
  cases check.kind with
  | optional | custom => simp
  | maxLength =>
    rw [← Decimal.isSome_readIndex?_iff]
    cases Decimal.readIndex? (Text.trim check.rule) <;> simp
  | regexp => cases Pattern.parse check.rule <;> simp

theorem Rule.mem_declaration {place slot : Slot} {rule : Option Rule} {answers : List String} :
    (slot, answers) ∈ declaration place rule ↔ slot = place ∧ ∃ r ∈ rule, answers = r.dependsOn := by
  cases rule <;> simp [declaration]

namespace Item

variable {item first second : Item} {before items : List Item}

/-- The derived rules of an item: what is shown, what can be edited, its value and its choices. -/
def derivedRules (item : Item) : List Rule :=
  item.visible.toList ++ item.readOnly.toList ++ item.value.toList ++ item.choices.toList ++
    item.options.flatMap fun choice => choice.disabled.toList ++ choice.visible.toList

/-- The derived rules are those that declare answers for derived slots. -/
theorem exists_derived_declaration_iff {answers : List String} :
    (∃ slot : Slot, slot.isDerived = true ∧ (slot, answers) ∈ item.declarations) ↔
      ∃ rule ∈ item.derivedRules, answers = rule.dependsOn := by
  simp only [declarations, derivedRules, List.mem_append, Rule.mem_declaration, List.mem_flatMap,
    List.mem_map, Option.mem_toList]
  constructor
  · rintro ⟨slot, hderived, (((((h | h) | h) | h) | ⟨choice, hchoice, h | h⟩) | h) | ⟨check, -, h⟩⟩
    · obtain ⟨-, rule, hrule, h⟩ := h; exact ⟨rule, .inl (.inl (.inl (.inl hrule))), h⟩
    · obtain ⟨-, rule, hrule, h⟩ := h; exact ⟨rule, .inl (.inl (.inl (.inr hrule))), h⟩
    · obtain ⟨-, rule, hrule, h⟩ := h; exact ⟨rule, .inl (.inl (.inr hrule)), h⟩
    · obtain ⟨-, rule, hrule, h⟩ := h; exact ⟨rule, .inl (.inr hrule), h⟩
    · obtain ⟨-, rule, hrule, h⟩ := h; exact ⟨rule, .inr ⟨choice, hchoice, .inl hrule⟩, h⟩
    · obtain ⟨-, rule, hrule, h⟩ := h; exact ⟨rule, .inr ⟨choice, hchoice, .inr hrule⟩, h⟩
    · rw [h.1] at hderived; cases hderived
    · cases h; cases hderived
  · rintro ⟨rule, (((h | h) | h) | h) | ⟨choice, hchoice, h | h⟩, rfl⟩
    · exact ⟨.visible, rfl, .inl (.inl (.inl (.inl (.inl (.inl ⟨rfl, rule, h, rfl⟩)))))⟩
    · exact ⟨.readOnly, rfl, .inl (.inl (.inl (.inl (.inl (.inr ⟨rfl, rule, h, rfl⟩)))))⟩
    · exact ⟨.value, rfl, .inl (.inl (.inl (.inl (.inr ⟨rfl, rule, h, rfl⟩))))⟩
    · exact ⟨.choices, rfl, .inl (.inl (.inl (.inr ⟨rfl, rule, h, rfl⟩)))⟩
    · exact ⟨.choices, rfl, .inl (.inl (.inr ⟨choice, hchoice, .inl ⟨rfl, rule, h, rfl⟩⟩))⟩
    · exact ⟨.choices, rfl, .inl (.inl (.inr ⟨choice, hchoice, .inr ⟨rfl, rule, h, rfl⟩⟩))⟩

/-- No derived rule of an item declares the item or its answer. -/
def IsSelfless (item : Item) : Prop :=
  ∀ rule ∈ item.derivedRules, ∀ answer ∈ rule.dependsOn, answer ≠ item.id ∧ item.answer? ≠ some answer

theorem selfDependencies_eq_nil_iff : item.selfDependencies = [] ↔ item.IsSelfless := by
  have hnamed : ∀ answer, item.isNamed answer = false ↔ answer ≠ item.id ∧ item.answer? ≠ some answer := by
    intro answer
    rw [isNamed, Bool.or_eq_false_iff, beq_eq_false_iff_ne, beq_eq_false_iff_ne, ne_comm (a := some answer)]
  rw [selfDependencies, List.map_eq_nil_iff, List.filter_eq_nil_iff]
  constructor
  · intro h rule hrule answer hanswer
    obtain ⟨slot, hderived, hmem⟩ := exists_derived_declaration_iff.2 ⟨rule, hrule, rfl⟩
    have hnone := h _ hmem
    simp only [hderived, Bool.true_and, List.any_eq_true, not_exists, not_and, Bool.not_eq_true] at hnone
    exact (hnamed answer).1 (hnone answer hanswer)
  · rintro h ⟨slot, answers⟩ hmem
    simp only [Bool.and_eq_true, List.any_eq_true, not_and, not_exists, Bool.not_eq_true]
    intro hderived answer hanswer
    obtain ⟨rule, hrule, rfl⟩ := exists_derived_declaration_iff.1 ⟨slot, hderived, hmem⟩
    exact (hnamed answer).2 (h rule hrule answer hanswer)

/-- Two items share neither the id nor the answer. -/
structure Apart (first second : Item) : Prop where
  id_ne : first.id ≠ second.id
  answer_ne : ∀ answer, first.answer? = some answer → second.answer? ≠ some answer

theorem pairwise_apart_iff : items.Pairwise Apart ↔
    (items.map (·.id)).Nodup ∧ (items.filterMap (·.answer?)).Nodup := by
  rw [List.Nodup, List.pairwise_map, List.pairwise_filterMap, ← List.pairwise_and_iff]
  refine List.Pairwise.iff fun first second => ⟨fun h => ⟨h.id_ne, ?_⟩, fun h => ⟨h.1, ?_⟩⟩
  · rintro answer hfirst answer' hsecond rfl
    exact h.answer_ne answer hfirst hsecond
  · exact fun answer hfirst hsecond => h.2 answer hfirst answer hsecond rfl

theorem flaws_eq_nil_iff : item.flaws before = [] ↔
    (∀ other ∈ before, other.Apart item) ∧ ∀ check ∈ item.validation, check.IsReadable := by
  have hid : (if (before.any fun other => other.id == item.id) = true then
      [Flaw.duplicateItem item.id] else []) = [] ↔ ∀ other ∈ before, other.id ≠ item.id := by
    simp
  rw [flaws, List.append_eq_nil_iff, List.append_eq_nil_iff, hid, List.filterMap_eq_nil_iff]
  simp only [Check.flaw?_eq_none_iff]
  refine and_congr_left fun _ => ⟨?_, fun h => ⟨fun other hother => (h other hother).id_ne, ?_⟩⟩
  · rintro ⟨hid, hanswer⟩ other hother
    refine ⟨hid other hother, fun answer hheld hown => ?_⟩
    rw [hown] at hanswer
    cases hfound : before.find? fun other => other.answer? == some answer with
    | none => exact absurd (by simpa using hheld) (List.find?_eq_none.1 hfound other hother)
    | some first => simp [hfound] at hanswer
  · split
    · rename_i answer hown
      split
      · rename_i first hfound
        have hheld : first.answer? = some answer := by simpa using List.find?_some hfound
        exact absurd hown ((h first (List.mem_of_find?_eq_some hfound)).answer_ne answer hheld)
      · rfl
    · rfl

theorem flawsOfAll_append (before items more : List Item) :
    flawsOfAll before (items ++ more) = flawsOfAll before items ++ flawsOfAll (before ++ items) more := by
  induction items generalizing before with
  | nil => simp [flawsOfAll]
  | cons item items ih => simp [flawsOfAll, ih]

theorem flawsOfAll_eq_nil_iff : flawsOfAll before items = [] ↔
    (∀ other ∈ before, ∀ item ∈ items, other.Apart item) ∧ items.Pairwise Apart ∧
      ∀ item ∈ items, ∀ check ∈ item.validation, check.IsReadable := by
  induction items generalizing before with
  | nil => simp [flawsOfAll]
  | cons item items ih =>
    rw [flawsOfAll, List.append_eq_nil_iff, flaws_eq_nil_iff, ih, List.pairwise_cons]
    simp only [List.forall_mem_append, List.forall_mem_cons, forall_and]
    tauto

end Item

/-- The flaws of views are those of their ids and those of their items, one after the other. -/
theorem View.flawsOfAll_eq_nil_iff {before views : List View} : flawsOfAll before views = [] ↔
    ((∀ other ∈ before, ∀ view ∈ views, other.id ≠ view.id) ∧ (views.map (·.id)).Nodup) ∧
      Item.flawsOfAll (before.flatMap (·.items)) (views.flatMap (·.items)) = [] := by
  induction views generalizing before with
  | nil => simp [flawsOfAll, Item.flawsOfAll]
  | cons view views ih =>
    have hid : (if (before.any fun other => other.id == view.id) = true then
        [Flaw.duplicateView view.id] else []) = [] ↔ ∀ other ∈ before, other.id ≠ view.id := by
      simp
    rw [flawsOfAll, List.append_eq_nil_iff, List.append_eq_nil_iff, hid, ih, List.flatMap_append,
      List.flatMap_singleton, List.flatMap_cons, Item.flawsOfAll_append, List.append_eq_nil_iff,
      List.map_cons, List.nodup_cons]
    simp only [List.forall_mem_append, List.forall_mem_cons, forall_and,
      List.mem_map, not_exists, not_and, ne_comm (a := view.id)]
    tauto

variable {definition : Definition} {item : Item}

/-- What a form can be made of. -/
structure IsSound (definition : Definition) : Prop where
  views_ne_nil : definition.views ≠ []
  nodup_views : (definition.views.map (·.id)).Nodup
  nodup_items : (definition.items.map (·.id)).Nodup
  nodup_answers : (definition.items.filterMap (·.answer?)).Nodup
  selfless : ∀ item ∈ definition.items, item.IsSelfless
  readable : ∀ item ∈ definition.items, ∀ check ∈ item.validation, check.IsReadable

/-- The sound definitions are those without flaws. -/
theorem flaws_eq_nil_iff : definition.flaws = [] ↔ definition.IsSound := by
  have hviews : (if definition.views.isEmpty = true then [Flaw.noViews definition.id] else []) = [] ↔
      definition.views ≠ [] := by
    cases definition.views <;> simp
  have hitems : View.flawsOfAll [] definition.views = [] ↔ (definition.views.map (·.id)).Nodup ∧
      ((definition.items.map (·.id)).Nodup ∧ (definition.items.filterMap (·.answer?)).Nodup) ∧
      ∀ item ∈ definition.items, ∀ check ∈ item.validation, check.IsReadable := by
    rw [View.flawsOfAll_eq_nil_iff, List.flatMap_nil, Item.flawsOfAll_eq_nil_iff, Item.pairwise_apart_iff]
    simp [items]
  rw [flaws, List.append_eq_nil_iff, List.append_eq_nil_iff, hviews, List.flatMap_eq_nil_iff, hitems]
  simp only [Item.selfDependencies_eq_nil_iff]
  exact ⟨fun ⟨⟨hne, hself⟩, hv, ⟨hi, ha⟩, hc⟩ => ⟨hne, hv, hi, ha, hself, hc⟩,
    fun h => ⟨⟨h.views_ne_nil, h.selfless⟩, h.nodup_views, ⟨h.nodup_items, h.nodup_answers⟩, h.readable⟩⟩

/-- No two items of a sound definition share an id or an answer. -/
theorem pairwise_apart (sound : definition.flaws = []) : definition.items.Pairwise Item.Apart :=
  have h := flaws_eq_nil_iff.1 sound
  Item.pairwise_apart_iff.2 ⟨h.nodup_items, h.nodup_answers⟩

/-- No derived rule of an item of a sound definition declares the item's own answer. -/
theorem answer_ne_of_declared (sound : definition.flaws = []) (hitem : item ∈ definition.items)
    {slot : Slot} {answers : List String} (hdeclared : (slot, answers) ∈ item.declarations)
    (hderived : slot.isDerived = true) {answer : String} (h : answer ∈ answers) :
    item.answer? ≠ some answer := by
  obtain ⟨rule, hrule, rfl⟩ := Item.exists_derived_declaration_iff.1 ⟨slot, hderived, hdeclared⟩
  exact ((flaws_eq_nil_iff.1 sound).selfless item hitem rule hrule answer h).2

end Definition

end Formwork
