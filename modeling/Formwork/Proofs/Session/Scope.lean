import Formwork.Proofs.Session.Distinct
import Formwork.Proofs.Session.Submit

/-!
# What a validation replaces

A validation checks only what is shown, but replaces the messages of all items in its scope
(`Scope.Includes`). So where nothing is shown the old messages go, and every other item has one message for
each rule that its answer fails (`Form.Item.Complaints`). The answers and what is shown stay as they are, and
a second validation finds the same and stores nothing (`Journey.validates_in_scope`).
-/

namespace Formwork

/-! ### Scopes -/

/-- Whether a validation is about the items of a view. -/
def Scope.Includes : Scope → Form.View → Prop
  | .view id, page => page.id = id
  | .all, _ => True

namespace Scope

variable {scope : Scope} {setting : Setting} {values : Fields Json} {view : Form.View}

theorem covers_iff : scope.covers view = true ↔ scope.Includes view := by
  cases scope with
  | view id => exact beq_iff_eq
  | all => exact iff_of_true rfl trivial

theorem checks_iff : scope.checks setting values view = true ↔
    scope.Includes view ∧ (scope = .all → setting.shows values view = true) := by
  cases scope with
  | view id =>
    rw [checks, beq_iff_eq]
    exact ⟨fun h => ⟨h, nofun⟩, fun h => h.1⟩
  | all => exact ⟨fun h => ⟨trivial, fun _ => h⟩, fun h => h.2 rfl⟩

end Scope

namespace Form

variable {form : Form} {setting : Setting} {state : State} {scope : Scope} {item : Item} {view : View}
  {checks : List Definition.Check}

/-! ### Messages about an answer -/

/-- The messages about an answer: one for each of some rules that it fails, in their order. -/
inductive Item.Complaints (item : Item) (setting : Setting) (state : State) :
    List Definition.Check → List String → Prop
  | nil : Complaints item setting state [] []
  | met {check : Definition.Check} {requirement : Definition.Requirement} {checks : List Definition.Check}
    {messages : List String} : check.requirement item.id = .ok requirement →
    requirement.isMet setting state.values (item.answerIn state) = true →
    Complaints item setting state checks messages → Complaints item setting state (check :: checks) messages
  | failed {check : Definition.Check} {requirement : Definition.Requirement} {checks : List Definition.Check}
    {messages : List String} : check.requirement item.id = .ok requirement →
    requirement.isMet setting state.values (item.answerIn state) = false →
    Complaints item setting state checks messages →
    Complaints item setting state (check :: checks)
      (Check.message ⟨check, requirement⟩ item.source.displayLabel (item.answerIn state) :: messages)

theorem Item.complaints_of_checks
    (h : ∀ check ∈ checks, ∃ requirement, check.requirement item.id = .ok requirement) :
    item.Complaints setting state checks
      (((checks.filterMap (Check.ofDefinition? item.id)).filter fun check =>
        !check.requirement.isMet setting state.values (item.answerIn state)).map
          (·.message item.source.displayLabel (item.answerIn state))) := by
  induction checks with
  | nil => exact .nil
  | cons check checks ih =>
    obtain ⟨⟨requirement, hrequirement⟩, hrest⟩ := List.forall_mem_cons.1 h
    have hcheck : Check.ofDefinition? item.id check = some ⟨check, requirement⟩ := by
      rw [Check.ofDefinition?, hrequirement]; rfl
    rw [List.filterMap_cons, hcheck]
    cases hmet : requirement.isMet setting state.values (item.answerIn state) with
    | true =>
      rw [List.filter_cons_of_neg (by simp [hmet])]
      exact .met hrequirement hmet (ih hrest)
    | false =>
      rw [List.filter_cons_of_pos (by simp [hmet]), List.map_cons]
      exact .failed hrequirement hmet (ih hrest)

theorem Item.complaints_failures (hitem : item ∈ form.items) :
    item.Complaints setting state item.source.validation (item.failures setting state) := by
  rw [failures, checks_eq hitem]
  exact complaints_of_checks fun check hcheck =>
    Definition.exists_requirement form.sound (source_mem hitem) hcheck

/-! ### What is reported and stored -/

theorem mem_coveredIds {name : String} : name ∈ form.coveredIds scope ↔
    ∃ view ∈ form.views, scope.Includes view ∧ ∃ item ∈ view.items, item.id = name := by
  simp only [coveredIds, List.mem_map, List.mem_flatMap, List.mem_filter, Scope.covers_iff]
  constructor
  · rintro ⟨item, ⟨view, ⟨hview, hincludes⟩, hitem⟩, rfl⟩
    exact ⟨view, hview, hincludes, item, hitem, rfl⟩
  · rintro ⟨view, hview, hincludes, item, hitem, rfl⟩
    exact ⟨item, ⟨view, ⟨hview, hincludes⟩, hitem⟩, rfl⟩

theorem mem_coveredIds_of_has_validate {name : String}
    (h : (form.validate setting state scope).has name = true) : name ∈ form.coveredIds scope := by
  obtain ⟨view, hview, hchecks, item, hitem, hname, -⟩ := has_validate.1 h
  exact mem_coveredIds.2 ⟨view, hview, (Scope.checks_iff.1 hchecks).1, item, hitem, hname⟩

/-- An item in scope is reported where it is shown and does not pass. -/
theorem has_validate_item (hview : view ∈ form.views) (hincludes : scope.Includes view)
    (hitem : item ∈ view.items) : (form.validate setting state scope).has item.id = true ↔
      state.isVisible item.id = true ∧ (scope = .all → setting.shows state.values view = true) ∧
        ¬ item.Passes setting state := by
  rw [has_validate]
  constructor
  · rintro ⟨other, hother, hchecks, twin, htwin, hid, hvisible, hfails⟩
    -- an id is that of one item, and an item lies in one view
    obtain rfl : twin = item :=
      item_ext_id (mem_items_iff.2 ⟨other, hother, htwin⟩) (mem_items_iff.2 ⟨view, hview, hitem⟩) hid
    obtain rfl : other = view :=
      Option.some.inj ((viewOf?_of_mem hother htwin).symm.trans (viewOf?_of_mem hview hitem))
    exact ⟨hvisible, (Scope.checks_iff.1 hchecks).2, hfails⟩
  · rintro ⟨hvisible, hshown, hfails⟩
    exact ⟨view, hview, Scope.checks_iff.2 ⟨hincludes, hshown⟩, item, hitem, rfl, hvisible, hfails⟩

/-- After a validation the messages of the items in scope are those of the report. -/
theorem get?_errors_validated (name : String) :
    (form.replaceMessages state scope (form.validate setting state scope)).errors.get? name =
      if name ∈ form.coveredIds scope then (form.validate setting state scope).get? name
      else state.errors.get? name := by
  rw [get?_errors_replaceMessages]
  refine if_congr Iff.rfl ?_ rfl
  cases hfound : (form.validate setting state scope).get? name with
  | none => rfl
  | some messages =>
    obtain ⟨-, -, -, -, hne⟩ := exists_of_get?_validate hfound
    rw [Option.filter_some, if_pos (by simpa using hne)]

/-- To store what has been found again changes nothing. -/
theorem replaceMessages_again {next : State}
    (herrors : next.errors = (form.replaceMessages state scope (form.validate setting state scope)).errors) :
    form.replaceMessages next scope (form.validate setting state scope) = next := by
  have hsame : (form.replaceMessages next scope (form.validate setting state scope)).errors = next.errors := by
    refine NameMap.ext fun name => ?_
    rw [get?_errors_replaceMessages, herrors, get?_errors_replaceMessages]
    split
    · rfl
    · rfl
  rw [replaceMessages_eq, hsame]

end Form

/-! ### Sessions -/

namespace Session

variable {session : Session} {scope : Scope}

theorem errors_validate (session : Session) (scope : Scope) :
    (session.validate scope).2.state.errors = (session.validated scope).errors :=
  session.errors_commit (session.validated scope)

theorem validated_eq (session : Session) (scope : Scope) : session.validated scope =
    { session.state with errors := (session.validated scope).errors } := Form.replaceMessages_eq _

/-- Apart from messages and the revision, a validation leaves the state as it is. -/
theorem state_validate (session : Session) (scope : Scope) : (session.validate scope).2.state =
    { session.state with
      errors := (session.validated scope).errors
      revision := (session.validate scope).2.state.revision } := by
  have hform : (session.validated scope).formErrors = session.state.formErrors := by rw [validated_eq]
  have hnext : session.validated scope =
      { session.state with
        errors := (session.validated scope).errors
        formErrors := (session.validated scope).formErrors } := by
    rw [hform]; exact session.validated_eq scope
  have hcommit := session.state_commit_of_messages hnext
  rw [hform] at hcommit
  exact hcommit

/-- A second validation of a scope finds the same and stores nothing. -/
theorem validate_again (h : (session.validate scope).2.Distinct) :
    (session.validate scope).2.validate scope = session.validate scope := by
  obtain ⟨hvalues, hvisibility⟩ := session.validate_state scope
  have hmessages : session.form.validate session.setting (session.validate scope).2.state scope =
      session.form.validate session.setting session.state scope := Form.validate_congr hvalues hvisibility
  have hdraft : (session.validate scope).2.validated scope = (session.validate scope).2.state := by
    refine Eq.trans (congrArg (session.form.replaceMessages _ scope) hmessages) ?_
    exact Form.replaceMessages_again (session.errors_validate scope)
  have hcommit : (session.validate scope).2.commit ((session.validate scope).2.validated scope) =
      (session.validate scope).2 := by
    rw [hdraft, h.commit_state]
  exact Prod.ext hmessages hcommit

end Session

namespace Journey

variable {journey : Journey}

/-- Whatever a validation covers: each item in scope has the messages of the report, which has some for it if
and only if it is shown and does not pass, and then one for each rule that its answer fails. The messages of
all others and the rest of the state stay as they are. A second validation reports the same and publishes
nothing. -/
theorem validates_in_scope (h : journey.ReachableDistinctly) (scope : Scope) :
    let session := journey.session
    let messages := (session.validate scope).1
    let after := (session.validate scope).2
    (∀ view ∈ session.form.views, scope.Includes view → ∀ item ∈ view.items,
      after.state.errors.get? item.id = messages.get? item.id ∧
      (messages.has item.id = true ↔ session.state.isVisible item.id = true ∧
        (scope = .all → session.shows view = true) ∧ ¬ item.Passes session.setting session.state) ∧
      ∀ found, messages.get? item.id = some found →
        item.Complaints session.setting session.state item.source.validation found) ∧
    (∀ name, (∀ view ∈ session.form.views, scope.Includes view → ∀ item ∈ view.items, item.id ≠ name) →
      messages.has name = false ∧ after.state.errors.get? name = session.state.errors.get? name) ∧
    after.state = { session.state with errors := after.state.errors, revision := after.state.revision } ∧
    after = { session with store := after.store } ∧
    after.validate scope = (messages, after) := by
  intro session messages after
  have herrors : after.state.errors = (session.validated scope).errors := session.errors_validate scope
  refine ⟨fun view hview hincludes item hitem => ⟨?_, ?_, fun found hfound => ?_⟩, fun name hname => ?_, ?_, rfl,
    ?_⟩
  · have hcovered : item.id ∈ session.form.coveredIds scope :=
      Form.mem_coveredIds.2 ⟨view, hview, hincludes, item, hitem, rfl⟩
    rw [herrors]
    exact (Form.get?_errors_validated item.id).trans (if_pos hcovered)
  · exact Form.has_validate_item hview hincludes hitem
  · obtain ⟨other, hother, hid, rfl, -⟩ := Form.exists_of_get?_validate hfound
    obtain rfl := Form.item_ext_id hother (Form.mem_items_iff.2 ⟨view, hview, hitem⟩) hid
    exact Form.Item.complaints_failures hother
  · have hout : name ∉ session.form.coveredIds scope := fun hcovered => by
      obtain ⟨view, hview, hincludes, item, hitem, hid⟩ := Form.mem_coveredIds.1 hcovered
      exact hname view hview hincludes item hitem hid
    refine ⟨Bool.eq_false_iff.2 fun hhas => hout (Form.mem_coveredIds_of_has_validate hhas), ?_⟩
    rw [herrors]
    exact (Form.get?_errors_validated name).trans (if_neg hout)
  · rw [herrors]
    exact session.state_validate scope
  · have hgiven : Operation.Distinct (.session (.validate scope)) := trivial
    exact Session.validate_again (h.perform hgiven).distinct

/-! ### A form to try -/

theorem reachableDistinctly_consent {answers : Fields Json} (h : ∀ field ∈ answers, field.2.Distinct) :
    (consentJourney answers).ReachableDistinctly := by
  have hdefinition : consentForm.definition.Distinct :=
    .of_plain rfl (by simp [consentForm, consentDefinition, Definition.items])
  have hgiven : Operation.Distinct (.session (.mergeHostErrors [⟨"consent", "Expired"⟩])) := trivial
  exact .perform hgiven (.start consentForm {} answers hdefinition trivial trivial h)

/-- With an age, the complaint of the host about the consent gives way to that of the rule. -/
theorem validates_in_scope_consent :
    let journey := consentJourney [("age", .str "7")]
    journey.session.state.errors.get? "consent" = some ["Expired"] ∧
      (journey.session.validate .all).2.state.errors.get? "consent" = some ["Please agree"] ∧
      (journey.session.validate .all).2.validate .all = journey.session.validate .all := by
  intro journey
  have hreachable : journey.ReachableDistinctly := reachableDistinctly_consent (by simp [Json.Distinct])
  obtain ⟨hitems, -, -, -, hagain⟩ := validates_in_scope hreachable .all
  let view := consentForm.views.head (by decide)
  obtain ⟨hstored, -⟩ := hitems view (List.head_mem _) trivial (view.items.get ⟨1, by decide⟩) (List.get_mem _ _)
  refine ⟨by decide +kernel, hstored.trans ?_, hagain⟩
  decide +kernel

end Journey
end Formwork
