import Formwork.Form.Basic
import Formwork.Proofs.Definition.Dependency
import Formwork.Proofs.Definition.Sound

/-!
# The items of a form

The items of a form are those of its definition, each at its place (`getElem?_items`) and in the view
that it knows (`viewOf?_eq_some_iff`). An item is known by its id (`item_ext_id`) and by its answer
(`item_ext_answer`), so that a look-up finds it or there is none. It does not depend on its own answer
(`answer_notMem_derivedDependencies`), and is a dependent of exactly the answers that its derived rules
declare (`mem_dependentItems`).
-/

namespace Formwork.Form

open Definition (Slot)

namespace Item

/-- The rules of an item that fill a slot when answers change. -/
def rulesOf (item : Item) : Slot → List Rule
  | .visible => item.visible.toList
  | .readOnly => item.readOnly.toList
  | .value => item.value.toList
  | .choices => item.choiceRules
  | .validation | .nextView => []

/-- The answers that the rules of a slot declare. -/
def declared (item : Item) (slot : Slot) : List String := (item.rulesOf slot).flatMap (·.dependsOn)

theorem mem_declared {item : Item} {slot : Slot} {answer : String} :
    answer ∈ item.declared slot ↔ ∃ rule ∈ item.rulesOf slot, answer ∈ rule.dependsOn := by
  rw [declared, List.mem_flatMap]

theorem rulesOf_ne_nil_of_declared {item : Item} {slot : Slot} {answer : String}
    (h : answer ∈ item.declared slot) : item.rulesOf slot ≠ [] := by
  obtain ⟨rule, hrule, -⟩ := mem_declared.1 h
  exact List.ne_nil_of_mem hrule

theorem mem_derivedRules {item : Item} {rule : Rule} :
    rule ∈ item.derivedRules ↔ ∃ slot, rule ∈ item.rulesOf slot := by
  simp only [derivedRules, flagRules, List.mem_append]
  constructor
  · rintro (((h | h) | h) | h)
    exacts [⟨.visible, h⟩, ⟨.readOnly, h⟩, ⟨.value, h⟩, ⟨.choices, h⟩]
  · rintro ⟨slot, h⟩
    cases slot with
    | visible => exact .inl (.inl (.inl h))
    | readOnly => exact .inl (.inl (.inr h))
    | value => exact .inl (.inr h)
    | choices => exact .inr h
    | validation | nextView => cases h

theorem mem_derivedDependencies {item : Item} {answer : String} :
    answer ∈ item.derivedDependencies ↔ ∃ slot, answer ∈ item.declared slot := by
  simp only [derivedDependencies, List.mem_flatMap, mem_derivedRules, mem_declared]
  exact ⟨fun ⟨rule, ⟨slot, h⟩, h'⟩ => ⟨slot, rule, h, h'⟩, fun ⟨slot, rule, h, h'⟩ => ⟨rule, ⟨slot, h⟩, h'⟩⟩

theorem mem_dependsOn_ofDefinition {rule : Option Definition.Rule} {answer : String} :
    (∃ r ∈ (rule.map Rule.ofDefinition).toList, answer ∈ r.dependsOn) ↔
      ∃ r ∈ rule, answer ∈ r.dependsOn := by
  cases rule <;> simp [Rule.ofDefinition]

/-- What the rules of an item declare is what its definition says. -/
theorem mem_declared_ofDefinition {i view : Nat} {item : Definition.Item} {slot : Slot}
    {answer : String} : answer ∈ (ofDefinition i view item).declared slot ↔
      slot.isDerived = true ∧ ∃ answers, (slot, answers) ∈ item.declarations ∧ answer ∈ answers := by
  rw [mem_declared]
  simp only [Definition.Item.declarations, List.mem_append, Definition.Rule.mem_declaration,
    List.mem_flatMap, List.mem_map]
  cases slot with
  | visible | readOnly | value =>
    simp only [rulesOf, ofDefinition, mem_dependsOn_ofDefinition, Slot.isDerived]
    simp
  | choices =>
    simp only [rulesOf, ofDefinition, choiceRules, Choice.ofDefinition, Choice.rules,
      Rule.ofDefinition, List.mem_append, Option.mem_toList, Option.mem_def, Option.map_eq_some_iff,
      List.mem_flatMap, List.mem_map, exists_exists_and_eq_and, Slot.isDerived, reduceCtorEq,
      false_and, or_self, true_and, false_or, or_false, Prod.mk.injEq, and_false, exists_false]
    constructor
    · rintro ⟨rule, (⟨r, hr, rfl⟩ | ⟨choice, hc, ⟨r, hr, rfl⟩ | ⟨r, hr, rfl⟩⟩), h⟩
      exacts [⟨_, .inl ⟨r, hr, rfl⟩, h⟩, ⟨_, .inr ⟨choice, hc, .inl ⟨r, hr, rfl⟩⟩, h⟩,
        ⟨_, .inr ⟨choice, hc, .inr ⟨r, hr, rfl⟩⟩, h⟩]
    · rintro ⟨answers, (⟨r, hr, rfl⟩ | ⟨choice, hc, ⟨r, hr, rfl⟩ | ⟨r, hr, rfl⟩⟩), h⟩
      exacts [⟨_, .inl ⟨r, hr, rfl⟩, h⟩, ⟨_, .inr ⟨choice, hc, .inl ⟨r, hr, rfl⟩⟩, h⟩,
        ⟨_, .inr ⟨choice, hc, .inr ⟨r, hr, rfl⟩⟩, h⟩]
  | validation | nextView => simp [rulesOf, Slot.isDerived]

end Item

/-! ### Places -/

namespace View

theorem length_items_ofDefinitions (index firstItem : Nat) (views : List Definition.View) :
    ((ofDefinitions index firstItem views).flatMap (·.items)).length =
      (views.flatMap (·.items)).length := by
  induction views generalizing index firstItem with
  | nil => rfl
  | cons view views ih => simp [ofDefinitions, ofDefinition, ih]

/-- The items of views from a place on are the defined ones, counted from there. -/
theorem getElem?_items_ofDefinitions {index firstItem : Nat} {views : List Definition.View} {i : Nat}
    {item : Item} (h : ((ofDefinitions index firstItem views).flatMap (·.items))[i]? = some item) :
    (views.flatMap (·.items))[i]? = some item.source ∧
      item = .ofDefinition (firstItem + i) item.view item.source := by
  induction views generalizing index firstItem i with
  | nil => simp [ofDefinitions] at h
  | cons view views ih =>
    simp only [ofDefinitions, List.flatMap_cons] at h ⊢
    have hlen : (ofDefinition index firstItem view).items.length = view.items.length := by
      simp [ofDefinition]
    by_cases hi : i < view.items.length
    · rw [List.getElem?_append_left (hlen ▸ hi)] at h
      rw [List.getElem?_append_left hi]
      simp only [ofDefinition, List.getElem?_mapIdx, Option.map_eq_some_iff] at h
      obtain ⟨source, hsource, rfl⟩ := h
      exact ⟨hsource, rfl⟩
    · rw [List.getElem?_append_right (by omega), hlen] at h
      rw [List.getElem?_append_right (by omega)]
      obtain ⟨hsource, hitem⟩ := ih h
      refine ⟨hsource, ?_⟩
      rwa [show firstItem + view.items.length + (i - view.items.length) = firstItem + i by omega]
        at hitem

end View

variable {form : Form} {view : View} {item other : Item} {i : Nat} {answer : String}

/-- The item at a place is the defined one, and knows its place. -/
theorem getElem?_items (h : form.items[i]? = some item) :
    form.definition.items[i]? = some item.source ∧ item = .ofDefinition i item.view item.source := by
  rw [form.items_eq, form.views_eq] at h
  have := View.getElem?_items_ofDefinitions h
  rwa [Nat.zero_add] at this

theorem index_eq_of_getElem? (h : form.items[i]? = some item) : item.index = i := by
  rw [(getElem?_items h).2]; rfl

theorem getElem?_index (h : item ∈ form.items) : form.items[item.index]? = some item := by
  obtain ⟨i, hi⟩ := List.getElem?_of_mem h
  rwa [index_eq_of_getElem? hi]

theorem source_mem (h : item ∈ form.items) : item.source ∈ form.definition.items :=
  List.mem_of_getElem? (getElem?_items (getElem?_index h)).1

theorem item_ext_index (h : item ∈ form.items) (h' : other ∈ form.items)
    (heq : item.index = other.index) : item = other :=
  Option.some.inj ((getElem?_index h).symm.trans ((congrArg _ heq).trans (getElem?_index h')))

theorem apart_of_lt (h : item ∈ form.items) (h' : other ∈ form.items)
    (hlt : item.index < other.index) : item.source.Apart other.source := by
  obtain ⟨hi, hitem⟩ := List.getElem?_eq_some_iff.1 (getElem?_items (getElem?_index h)).1
  obtain ⟨hj, hother⟩ := List.getElem?_eq_some_iff.1 (getElem?_items (getElem?_index h')).1
  rw [← hitem, ← hother]
  exact List.pairwise_iff_getElem.1 (Definition.pairwise_apart form.sound) _ _ hi hj hlt

/-- Items that are not apart are the same. -/
theorem item_ext_of_not_apart (h : item ∈ form.items) (h' : other ∈ form.items)
    (hnot : ¬ item.source.Apart other.source) (hnot' : ¬ other.source.Apart item.source) :
    item = other := by
  refine item_ext_index h h' ?_
  by_contra hne
  rcases Nat.lt_or_gt_of_ne hne with hlt | hlt
  · exact hnot (apart_of_lt h h' hlt)
  · exact hnot' (apart_of_lt h' h hlt)

/-- Items of one id are the same. -/
theorem item_ext_id (h : item ∈ form.items) (h' : other ∈ form.items) (heq : item.id = other.id) :
    item = other :=
  item_ext_of_not_apart h h' (fun hapart => hapart.id_ne heq) fun hapart => hapart.id_ne heq.symm

/-- Items of one answer are the same. -/
theorem item_ext_answer (h : item ∈ form.items) (h' : other ∈ form.items)
    (hi : item.answer? = some answer) (hj : other.answer? = some answer) : item = other :=
  item_ext_of_not_apart h h' (fun hapart => hapart.answer_ne answer hi hj)
    fun hapart => hapart.answer_ne answer hj hi

/-! ### Views -/

theorem mem_items_iff : item ∈ form.items ↔ ∃ view ∈ form.views, item ∈ view.items := by
  rw [form.items_eq, List.mem_flatMap]

/-- The view that an item lies in. -/
def viewOf? (form : Form) (item : Item) : Option View := form.views[item.view]?

theorem View.getElem?_of_mem_items {index firstItem : Nat} {views : List Definition.View}
    (hview : view ∈ ofDefinitions index firstItem views) (hitem : item ∈ view.items) :
    index ≤ item.view ∧ (ofDefinitions index firstItem views)[item.view - index]? = some view := by
  induction views generalizing index firstItem with
  | nil => cases hview
  | cons first rest ih =>
    rw [ofDefinitions] at hview ⊢
    rcases List.mem_cons.1 hview with rfl | hview
    · obtain ⟨i, hi⟩ := List.getElem?_of_mem hitem
      simp only [ofDefinition, List.getElem?_mapIdx, Option.map_eq_some_iff] at hi
      obtain ⟨source, -, rfl⟩ := hi
      have hplace : (Item.ofDefinition (firstItem + i) index source).view = index := rfl
      rw [hplace, Nat.sub_self]
      exact ⟨Nat.le_refl index, rfl⟩
    · obtain ⟨hle, hget⟩ := ih hview
      have hplace : item.view - index = item.view - (index + 1) + 1 := by omega
      rw [hplace, List.getElem?_cons_succ]
      exact ⟨by omega, hget⟩

theorem viewOf?_of_mem (hview : view ∈ form.views) (hitem : item ∈ view.items) :
    form.viewOf? item = some view := by
  rw [form.views_eq] at hview
  have hget := (View.getElem?_of_mem_items hview hitem).2
  rwa [Nat.sub_zero, ← form.views_eq] at hget

theorem viewOf?_eq_some_iff (hitem : item ∈ form.items) :
    form.viewOf? item = some view ↔ view ∈ form.views ∧ item ∈ view.items := by
  refine ⟨fun h => ?_, fun ⟨hview, hmem⟩ => viewOf?_of_mem hview hmem⟩
  obtain ⟨first, hfirst, hmem⟩ := mem_items_iff.1 hitem
  rw [viewOf?_of_mem hfirst hmem] at h
  cases h
  exact ⟨hfirst, hmem⟩

theorem pairwise_items : form.items.Pairwise fun first second => first.source.Apart second.source := by
  rw [List.pairwise_iff_getElem]
  intro i j hi hj hlt
  have hplace := fun k (hk : k < form.items.length) => index_eq_of_getElem? (List.getElem?_eq_getElem hk)
  exact apart_of_lt (List.getElem_mem hi) (List.getElem_mem hj) (by rw [hplace, hplace]; exact hlt)

theorem View.map_source_ofDefinitions (index firstItem : Nat) (views : List Definition.View) :
    (ofDefinitions index firstItem views).map (·.source) = views := by
  induction views generalizing index firstItem with
  | nil => rfl
  | cons view views ih => rw [ofDefinitions, List.map_cons, ih]; rfl

theorem map_source_views (form : Form) : form.views.map (·.source) = form.definition.views := by
  rw [form.views_eq, View.map_source_ofDefinitions]

theorem nodup_view_ids (form : Form) : (form.views.map (·.id)).Nodup := by
  have h := (Definition.flaws_eq_nil_iff.1 form.sound).nodup_views
  rwa [← map_source_views, List.map_map] at h

/-! ### Look-ups -/

/-- Where no two members have a property, the first one that has it is the only one. -/
theorem find?_eq_some_iff_of_unique {α : Type} {p : α → Bool} {l : List α} {a : α}
    (h : ∀ a ∈ l, ∀ b ∈ l, p a = true → p b = true → a = b) :
    l.find? p = some a ↔ a ∈ l ∧ p a = true := by
  refine ⟨fun hfound => ⟨List.mem_of_find?_eq_some hfound, List.find?_some hfound⟩, fun ⟨hmem, hp⟩ => ?_⟩
  cases hfound : l.find? p with
  | none => exact absurd hp (List.find?_eq_none.1 hfound a hmem)
  | some b => rw [h b (List.mem_of_find?_eq_some hfound) a hmem (List.find?_some hfound) hp]

theorem item?_eq_some_iff {id : String} :
    form.item? id = some item ↔ item ∈ form.items ∧ item.id = id := by
  rw [item?, find?_eq_some_iff_of_unique, beq_iff_eq]
  intro item hitem other hother hid hid'
  rw [beq_iff_eq] at hid hid'
  exact item_ext_id hitem hother (hid.trans hid'.symm)

theorem itemOf?_eq_some_iff :
    form.itemOf? answer = some item ↔ item ∈ form.items ∧ item.answer? = some answer := by
  rw [itemOf?, find?_eq_some_iff_of_unique, beq_iff_eq]
  intro item hitem other hother hanswer hanswer'
  rw [beq_iff_eq] at hanswer hanswer'
  exact item_ext_answer hitem hother hanswer hanswer'

theorem item?_eq_none_iff {id : String} : form.item? id = none ↔ ∀ item ∈ form.items, item.id ≠ id := by
  simp only [Option.eq_none_iff_forall_ne_some, ne_eq, item?_eq_some_iff, not_and]

theorem itemOf?_eq_none_iff :
    form.itemOf? answer = none ↔ ∀ item ∈ form.items, item.answer? ≠ some answer := by
  simp only [Option.eq_none_iff_forall_ne_some, ne_eq, itemOf?_eq_some_iff, not_and]

theorem view?_eq_some_iff {id : String} :
    form.view? id = some view ↔ view ∈ form.views ∧ view.id = id := by
  rw [view?, find?_eq_some_iff_of_unique, beq_iff_eq]
  intro view hview other hother hid hid'
  rw [beq_iff_eq] at hid hid'
  exact List.inj_on_of_nodup_map form.nodup_view_ids hview hother (hid.trans hid'.symm)

/-! ### Dependencies -/

/-- The rules of an item do not depend on its own answer. -/
theorem answer_notMem_derivedDependencies (h : item ∈ form.items) (hanswer : item.answer? = some answer) :
    answer ∉ item.derivedDependencies := by
  intro hdep
  obtain ⟨slot, hslot⟩ := Item.mem_derivedDependencies.1 hdep
  rw [(getElem?_items (getElem?_index h)).2, Item.mem_declared_ofDefinition] at hslot
  obtain ⟨hderived, answers, hdeclared, hmem⟩ := hslot
  exact Definition.answer_ne_of_declared form.sound (source_mem h) hdeclared hderived hmem hanswer

/-- The dependent items of an answer are those whose derived rules declare it. -/
theorem mem_dependentItems : i ∈ form.index.dependentItems answer ↔
    ∃ item, form.items[i]? = some item ∧ answer ∈ item.derivedDependencies := by
  rw [form.index_eq, DependencyIndex.mem_dependentItems_ofDefinition]
  constructor
  · rintro ⟨source, hsource, slot, answers, hdeclared, hderived, hmem⟩
    have hlen : form.items.length = form.definition.items.length := by
      rw [form.items_eq, form.views_eq, View.length_items_ofDefinitions]; rfl
    obtain ⟨hi, -⟩ := List.getElem?_eq_some_iff.1 hsource
    have hitem := List.getElem?_eq_getElem (hlen ▸ hi)
    obtain ⟨hsame, hof⟩ := getElem?_items hitem
    refine ⟨_, hitem, Item.mem_derivedDependencies.2 ⟨slot, ?_⟩⟩
    rw [hof, Item.mem_declared_ofDefinition, ← Option.some.inj (hsource.symm.trans hsame)]
    exact ⟨hderived, answers, hdeclared, hmem⟩
  · rintro ⟨item, hitem, hdep⟩
    obtain ⟨slot, hslot⟩ := Item.mem_derivedDependencies.1 hdep
    obtain ⟨hsource, hof⟩ := getElem?_items hitem
    rw [hof, Item.mem_declared_ofDefinition] at hslot
    obtain ⟨hderived, answers, hdeclared, hmem⟩ := hslot
    exact ⟨item.source, hsource, slot, answers, hdeclared, hderived, hmem⟩

theorem mem_dependentItems_index (h : item ∈ form.items) :
    item.index ∈ form.index.dependentItems answer ↔ answer ∈ item.derivedDependencies := by
  rw [mem_dependentItems]
  refine ⟨fun ⟨other, hother, hdep⟩ => ?_, fun hdep => ⟨item, getElem?_index h, hdep⟩⟩
  rwa [Option.some.inj ((getElem?_index h).symm.trans hother)]

end Formwork.Form
