import Formwork.Payload
import Formwork.Proofs.Form.Items
import Formwork.Proofs.Names
import Formwork.Validation

/-!
# What validation finds

An item passes if its answer meets every validation rule of its definition (`Form.Item.Passes`). In a
form no rule is left out, so validation reports exactly the items in scope that do not pass
(`Form.has_validate`), and the messages that it leaves are those of the report for the items in scope
and the old ones for the others (`Form.get?_errors_replaceMessages`).
-/

namespace Formwork

namespace Definition

variable {definition : Definition} {item : Item} {check : Check}

/-- Every validation rule of a sound definition asks for something. -/
theorem exists_requirement (sound : definition.flaws = []) (hitem : item ∈ definition.items)
    (hcheck : check ∈ item.validation) : ∃ requirement, check.requirement item.id = .ok requirement := by
  have hnone : check.flaw? item.id = none :=
    Check.flaw?_eq_none_iff.2 ((flaws_eq_nil_iff.1 sound).readable item hitem check hcheck)
  cases h : check.requirement item.id with
  | ok requirement => exact ⟨requirement, rfl⟩
  | error flaw => simp [Check.flaw?, h] at hnone

end Definition

namespace Form

variable {form : Form} {setting : Setting} {state : State} {scope : Scope} {item : Item} {name : String}

/-! ### Items that pass -/

/-- The answer of an item meets what each of its validation rules asks for. -/
def Item.Passes (item : Item) (setting : Setting) (state : State) : Prop :=
  ∀ check ∈ item.source.validation, ∃ requirement, check.requirement item.id = .ok requirement ∧
    requirement.isMet setting state.values (item.answerIn state) = true

theorem Item.checks_eq (h : item ∈ form.items) :
    item.checks = item.source.validation.filterMap (Check.ofDefinition? item.id) := by
  have hof := (getElem?_items (getElem?_index h)).2
  rw [hof]; rfl

theorem Item.failures_eq_nil_iff (h : item ∈ form.items) :
    item.failures setting state = [] ↔ item.Passes setting state := by
  simp only [failures, List.map_eq_nil_iff, List.filter_eq_nil_iff, Item.checks_eq h,
    List.mem_filterMap, Check.ofDefinition?, Option.map_eq_some_iff]
  constructor
  · intro hmet check hcheck
    obtain ⟨requirement, hrequirement⟩ :=
      Definition.exists_requirement form.sound (source_mem h) hcheck
    have hnot := hmet ⟨check, requirement⟩ ⟨check, hcheck, requirement, congrArg _ hrequirement, rfl⟩
    exact ⟨requirement, hrequirement, by simpa using hnot⟩
  · rintro hpasses _ ⟨check, hcheck, requirement, hrequirement, rfl⟩
    obtain ⟨asked, hasked, hmet⟩ := hpasses check hcheck
    rw [hasked] at hrequirement
    cases hrequirement
    simp [hmet]

/-! ### What is reported -/

theorem has_validate : (form.validate setting state scope).has name = true ↔
    ∃ view ∈ form.views, scope.checks setting state.values view = true ∧ ∃ item ∈ view.items,
      item.id = name ∧ state.isVisible item.id = true ∧ ¬ item.Passes setting state := by
  rw [validate, NameMap.has_ofList]
  simp only [Fields.names, List.mem_map, List.mem_filter, List.mem_flatMap]
  constructor
  · rintro ⟨_, ⟨⟨item, ⟨⟨view, ⟨hview, hchecks⟩, hitem⟩, hvisible⟩, rfl⟩, hfound⟩, rfl⟩
    refine ⟨view, hview, hchecks, item, hitem, rfl, hvisible, fun hpasses => ?_⟩
    rw [← Item.failures_eq_nil_iff (mem_items_iff.2 ⟨view, hview, hitem⟩)] at hpasses
    simp [hpasses] at hfound
  · rintro ⟨view, hview, hchecks, item, hitem, rfl, hvisible, hfails⟩
    rw [← Item.failures_eq_nil_iff (mem_items_iff.2 ⟨view, hview, hitem⟩)] at hfails
    exact ⟨_, ⟨⟨item, ⟨⟨view, ⟨hview, hchecks⟩, hitem⟩, hvisible⟩, rfl⟩, by simpa using hfails⟩, rfl⟩

/-- What is reported of an item are its failures. -/
theorem exists_of_get?_validate {messages : List String}
    (h : (form.validate setting state scope).get? name = some messages) :
    ∃ item ∈ form.items, item.id = name ∧ item.failures setting state = messages ∧ messages ≠ [] := by
  rw [validate] at h
  obtain ⟨hfound, hsome⟩ := List.mem_filter.1 (NameMap.mem_of_get?_ofList h)
  obtain ⟨item, hitem, heq⟩ := List.mem_map.1 hfound
  cases heq
  obtain ⟨view, hview, hmem⟩ := List.mem_flatMap.1 (List.mem_filter.1 hitem).1
  exact ⟨item, mem_items_iff.2 ⟨view, (List.mem_filter.1 hview).1, hmem⟩, rfl, rfl, by simpa using hsome⟩

/-- Validation looks at nothing but the answers and at what is shown. -/
theorem validate_congr {next : State} (hvalues : next.values = state.values)
    (hvisibility : next.visibility = state.visibility) :
    form.validate setting next scope = form.validate setting state scope := by
  have hpart (state : State) : form.validate setting state scope =
      form.validate setting { values := state.values, visibility := state.visibility } scope := rfl
  rw [hpart next, hvalues, hvisibility, ← hpart state]

/-! ### What is stored -/

theorem get?_errors_replaceErrors (messages : List String) (other : String) :
    (state.replaceErrors name messages).errors.get? other =
      if other = name then (if messages = [] then none else some messages) else state.errors.get? other := by
  simp only [State.replaceErrors, List.isEmpty_iff]
  split
  · rw [NameMap.get?_erase]
  · rw [NameMap.get?_insert]

/-- The ids of the items whose messages a validation replaces. -/
def coveredIds (form : Form) (scope : Scope) : List String :=
  ((form.views.filter scope.covers).flatMap (·.items)).map (·.id)

theorem get?_errors_replaceMessages (messages : Messages) (name : String) :
    (form.replaceMessages state scope messages).errors.get? name =
      if name ∈ form.coveredIds scope then (messages.get? name).filter (· ≠ [])
      else state.errors.get? name := by
  have hstored : ∀ found : Option (List String),
      (if found.getD [] = [] then none else some (found.getD [])) = found.filter (· ≠ []) := fun found => by
    cases found with
    | none => rfl
    | some messages => cases messages <;> rfl
  rw [replaceMessages, coveredIds]
  induction (form.views.filter scope.covers).flatMap (·.items) using List.reverseRecOn with
  | nil => rfl
  | append_singleton items item ih =>
    rw [List.foldl_append, List.foldl_cons, List.foldl_nil, get?_errors_replaceErrors, ih, List.map_append,
      hstored]
    by_cases hname : name = item.id
    · subst hname; simp
    · simp [hname]

theorem coveredIds_all : form.coveredIds .all = form.items.map (·.id) := by
  have hviews : form.views.filter (Scope.covers .all) = form.views :=
    List.filter_eq_self.2 fun _ _ => rfl
  rw [coveredIds, hviews, form.items_eq]

/-- A validation changes nothing but messages. -/
theorem replaceMessages_eq (messages : Messages) : form.replaceMessages state scope messages =
    { state with errors := (form.replaceMessages state scope messages).errors } := by
  rw [replaceMessages]
  induction (form.views.filter scope.covers).flatMap (·.items) using List.reverseRecOn with
  | nil => rfl
  | append_singleton items item ih =>
    rw [List.foldl_append]
    show State.replaceErrors _ _ _ = _
    rw [ih]; rfl

/-! ### What is sent -/

theorem Item.sent?_eq_some_iff {viewShown : Bool} {value : Json} :
    item.sent? state viewShown = some (name, value) ↔ item.answer? = some name ∧
      ((viewShown = true ∧ state.isVisible item.id = true) ∨ item.source.includeWhenHidden = true) ∧
      value = item.source.shape ((state.value? name).getD .null) := by
  rw [sent?, Option.bind_eq_some_iff]
  constructor
  · rintro ⟨answer, hanswer, hsent⟩
    split at hsent
    · rename_i hshown
      cases hsent
      exact ⟨hanswer, by simpa using hshown, rfl⟩
    · cases hsent
  · rintro ⟨hanswer, hshown, rfl⟩
    exact ⟨name, hanswer, by rw [if_pos (by simpa using hshown)]⟩

theorem mem_payload {shown : View → Bool} {value : Json} :
    (name, value) ∈ form.payload state shown ↔ ∃ view ∈ form.views, ∃ item ∈ view.items,
      item.answer? = some name ∧
      ((shown view = true ∧ state.isVisible item.id = true) ∨ item.source.includeWhenHidden = true) ∧
      value = item.source.shape ((state.value? name).getD .null) := by
  simp only [payload, List.mem_flatMap, List.mem_filterMap, Item.sent?_eq_some_iff]

end Form
end Formwork
