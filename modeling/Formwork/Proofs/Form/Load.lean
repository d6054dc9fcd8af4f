import Formwork.Proofs.Form.Items

/-!
# Loading

A definition loads exactly if it is sound, whatever its expressions are, and the tables of the form that it
loads as agree with it and with each other (`Form.IsExact`): views and items stand in the order of the
definition, an item knows its place and that of its view, and a look-up finds the only element of an id.
-/

namespace Formwork.Form

variable {form : Form} {definition : Definition} {k : Nat} {item : Item}

/-- The tables of a form hold its definition, and lead to one another. -/
structure IsExact (form : Form) : Prop where
  views_eq : form.views.map (·.source) = form.definition.views
  view_items_eq : ∀ view ∈ form.views, view.items.map (·.source) = view.source.items
  items_eq : form.items = form.views.flatMap (·.items)
  /-- An item knows its place, and only the view that it knows lists it. -/
  placed : ∀ (k : Nat) item, form.items[k]? = some item → item.index = k ∧
    item.view < form.views.length ∧
    ∀ (j : Nat) view, form.views[j]? = some view → (k ∈ view.items.map (·.index) ↔ j = item.view)
  item?_iff : ∀ id item, form.item? id = some item ↔ item ∈ form.items ∧ item.id = id
  itemOf?_iff : ∀ answer item,
    form.itemOf? answer = some item ↔ item ∈ form.items ∧ item.answer? = some answer
  view?_iff : ∀ id view, form.view? id = some view ↔ view ∈ form.views ∧ view.id = id

theorem View.map_source_items {index firstItem : Nat} {views : List Definition.View} {view : View}
    (h : view ∈ ofDefinitions index firstItem views) :
    view.items.map (·.source) = view.source.items := by
  induction views generalizing index firstItem with
  | nil => cases h
  | cons first rest ih =>
    rcases List.mem_cons.1 h with rfl | h
    · show (first.items.mapIdx _).map _ = first.items
      refine List.ext_getElem? fun i => ?_
      rw [List.getElem?_map, List.getElem?_mapIdx, Option.map_map]
      cases first.items[i]? <;> rfl
    · exact ih h

/-- A view lists an item exactly if it is the one at the place that the item knows. -/
theorem mem_places_iff (hitem : form.items[k]? = some item) {j : Nat} {view : View}
    (hview : form.views[j]? = some view) : k ∈ view.items.map (·.index) ↔ j = item.view := by
  have hmem := List.mem_of_getElem? hitem
  have hplace : k ∈ view.items.map (·.index) ↔ item ∈ view.items := by
    rw [← index_eq_of_getElem? hitem, List.mem_map]
    refine ⟨fun ⟨other, hother, hsame⟩ => ?_, fun h => ⟨item, h, rfl⟩⟩
    have hin := mem_items_iff.2 ⟨view, List.mem_of_getElem? hview, hother⟩
    exact item_ext_index hin hmem hsame ▸ hother
  rw [hplace]
  constructor
  · intro h
    have hown : form.views[item.view]? = some view := viewOf?_of_mem (List.mem_of_getElem? hview) h
    exact (List.getElem?_inj (List.getElem?_eq_some_iff.1 hview).1 form.nodup_view_ids.of_map).1
      (hview.trans hown.symm)
  · rintro rfl
    exact ((viewOf?_eq_some_iff hmem).1 hview).2

theorem isExact (form : Form) : form.IsExact where
  views_eq := map_source_views form
  view_items_eq view hview := View.map_source_items (form.views_eq ▸ hview)
  items_eq := form.items_eq
  placed k item hitem := by
    obtain ⟨view, hview, hmem⟩ := mem_items_iff.1 (List.mem_of_getElem? hitem)
    exact ⟨index_eq_of_getElem? hitem, (List.getElem?_eq_some_iff.1 (viewOf?_of_mem hview hmem)).1,
      fun j view hview => mem_places_iff hitem hview⟩
  item?_iff _ _ := item?_eq_some_iff
  itemOf?_iff _ _ := itemOf?_eq_some_iff
  view?_iff _ _ := view?_eq_some_iff

/-- A form is loaded exactly if there is no flaw. -/
theorem exists_load_iff : (∃ form, load definition = .ok form) ↔ definition.flaws = [] := by
  rw [load]
  split
  · rename_i hsound
    exact ⟨fun _ => hsound, fun _ => ⟨_, rfl⟩⟩
  · rename_i flaw flaws hflaws
    exact ⟨fun ⟨_, h⟩ => (nomatch h), fun h => (nomatch hflaws.symm.trans h)⟩

theorem definition_of_load (h : load definition = .ok form) : form.definition = definition := by
  rw [load] at h
  split at h
  · cases h; rfl
  · cases h

/-- A form is the one that its definition loads as. -/
theorem load_definition (form : Form) : load form.definition = .ok form := by
  obtain ⟨loaded, hload⟩ := exists_load_iff.2 form.sound
  have hsame := definition_of_load hload
  rw [hload]
  -- all else in a form is a function of the definition
  obtain ⟨definition, sound, views, hviews, items, hitems, index, hindex⟩ := form
  obtain ⟨definition', sound', views', hviews', items', hitems', index', hindex'⟩ := loaded
  subst hindex hitems hviews hindex' hitems' hviews'
  cases hsame
  rfl

/-- The definitions that load are the sound ones, and they load as forms with exact tables. -/
theorem loads_exactly (definition : Definition) :
    ((∃ form, load definition = .ok form) ↔ definition.IsSound) ∧
    ∀ form, load definition = .ok form → form.definition = definition ∧ form.IsExact :=
  ⟨exists_load_iff.trans Definition.flaws_eq_nil_iff, fun form h => ⟨definition_of_load h, form.isExact⟩⟩

/-- Two views, with a rule that does not parse, a limit of length between blanks, an item without an answer
and one with an answer of another name. -/
def enrolment : Definition where
  id := "enrolment"
  title := "Enrolment"
  version := "1"
  views := [
    { id := "who", items := [
      { id := "name", kind := .text, validation := [⟨.maxLength, " +20 ", "Too long.", []⟩],
        visible := some ⟨"data.age ===", ["applicant_age"]⟩ }] },
    { id := "more", items := [
      { id := "intro", kind := .paragraph },
      { id := "age", kind := .number, answerId := some "applicant_age" }] }]

/-- The last item of `enrolment` is found by its id and by its answer, at its place and in its view. -/
theorem loads_exactly_enrolment : enrolment.IsSound ∧ ∃ form, load enrolment = .ok form ∧
    ∃ age, form.items[2]? = some age ∧ form.item? "age" = some age ∧
      form.itemOf? "applicant_age" = some age ∧ form.itemOf? "age" = none ∧
      ∃ view, form.views[1]? = some view ∧ 2 ∈ view.items.map (·.index) := by
  have hsound : enrolment.IsSound := Definition.flaws_eq_nil_iff.1 (by decide +kernel)
  obtain ⟨form, hload⟩ := (loads_exactly enrolment).1.2 hsound
  obtain ⟨hdefinition, hexact⟩ := (loads_exactly enrolment).2 form hload
  have hviews : form.views = View.ofDefinitions 0 0 enrolment.views := by
    rw [form.views_eq, hdefinition]
  have hitems : form.items = (View.ofDefinitions 0 0 enrolment.views).flatMap (·.items) := by
    rw [hexact.items_eq, hviews]
  let age : Item := .ofDefinition 2 1 { id := "age", kind := .number, answerId := some "applicant_age" }
  have hage : form.items[2]? = some age := by rw [hitems]; rfl
  have hmem := List.mem_of_getElem? hage
  have hview : form.views[1]? = some (.ofDefinition 1 1 enrolment.views[1]) := by rw [hviews]; rfl
  refine ⟨hsound, form, hload, age, hage, (hexact.item?_iff _ _).2 ⟨hmem, rfl⟩,
    (hexact.itemOf?_iff _ _).2 ⟨hmem, rfl⟩, ?_, _, hview, ((hexact.placed 2 age hage).2.2 1 _ hview).2 rfl⟩
  refine Option.eq_none_iff_forall_ne_some.2 fun item hfound => ?_
  obtain ⟨hin, hanswer⟩ := (hexact.itemOf?_iff _ _).1 hfound
  have hnone : "age" ∉ form.items.filterMap (·.answer?) := by rw [hitems]; decide +kernel
  exact hnone (List.mem_filterMap.2 ⟨item, hin, hanswer⟩)

end Formwork.Form
