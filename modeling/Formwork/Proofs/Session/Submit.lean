import Formwork.Proofs.Session.Reachable
import Formwork.Proofs.Session.Ticket

/-!
# What is submitted was validated

Validation, the messages that are kept and the payload each ask for themselves which views and items
are shown. They ask the same: a request to submit is issued if and only if validation finds nothing
among the items that are shown (`Journey.begin_submit`), and what is sent then are the answers that
passed (`Journey.submits_validated`).
-/

namespace Formwork

namespace Session

variable {session : Session} {scope : Scope} {item : Form.Item}

/-- An item is shown where neither a rule of its own nor the rule of its view hides it. -/
def ShowsItem (session : Session) (item : Form.Item) : Prop :=
  session.state.isVisible item.id = true ∧
    ∃ view ∈ session.form.views, item ∈ view.items ∧ session.shows view = true

/-! ### Validation leaves the answers alone -/

theorem validate_state (session : Session) (scope : Scope) :
    (session.validate scope).2.state.values = session.state.values ∧
      (session.validate scope).2.state.visibility = session.state.visibility := by
  let next := session.form.replaceMessages session.state scope
    (session.form.validate session.setting session.state scope)
  have hnext : next = { session.state with errors := next.errors } := Form.replaceMessages_eq _
  have hvalues : next.values = session.state.values := (congrArg State.values hnext :)
  have hvisibility : next.visibility = session.state.visibility := (congrArg State.visibility hnext :)
  show (session.commit next).state.values = _ ∧ (session.commit next).state.visibility = _
  rcases session.state_commit next with ⟨hstate, -⟩ | hstate
  · rw [hstate]; exact ⟨rfl, rfl⟩
  · rw [hstate]; exact ⟨hvalues, hvisibility⟩

theorem showsItem_validate : (session.validate scope).2.ShowsItem item ↔ session.ShowsItem item := by
  obtain ⟨hvalues, hvisibility⟩ := session.validate_state scope
  simp only [ShowsItem, shows, State.isVisible, hvalues, hvisibility]
  rfl

theorem passes_validate :
    item.Passes (session.validate scope).2.setting (session.validate scope).2.state ↔
      item.Passes session.setting session.state := by
  obtain ⟨hvalues, -⟩ := session.validate_state scope
  have hsetting : (session.validate scope).2.setting = session.setting := rfl
  have hanswer : item.answerIn (session.validate scope).2.state = item.answerIn session.state := by
    have hvalue : (session.validate scope).2.state.value? = session.state.value? := by
      funext answer
      rw [State.value?, hvalues, State.value?]
    rw [Form.Item.answerIn, hvalue, Form.Item.answerIn]
  simp only [Form.Item.Passes, hsetting, hanswer, hvalues]

/-! ### Validation of everything -/

/-- A validation of all views reports the items that are shown and do not pass. -/
theorem has_validate_all {name : String} : (session.validate .all).1.has name = true ↔
    ∃ item ∈ session.form.items, item.id = name ∧ session.ShowsItem item ∧
      ¬ item.Passes session.setting session.state := by
  rw [validate, Form.has_validate]
  constructor
  · rintro ⟨view, hview, hshown, item, hitem, hname, hvisible, hfails⟩
    exact ⟨item, Form.mem_items_iff.2 ⟨view, hview, hitem⟩, hname, ⟨hvisible, view, hview, hitem, hshown⟩,
      hfails⟩
  · rintro ⟨item, -, hname, ⟨hvisible, view, hview, hitem, hshown⟩, hfails⟩
    exact ⟨view, hview, hshown, item, hitem, hname, hvisible, hfails⟩

theorem validate_all_eq_empty_iff : (session.validate .all).1 = .empty ↔
    ∀ item ∈ session.form.items, session.ShowsItem item → item.Passes session.setting session.state := by
  rw [NameMap.eq_empty_iff]
  constructor
  · intro h item hitem hshown
    by_contra hfails
    have hhas := has_validate_all.2 ⟨item, hitem, rfl, hshown, hfails⟩
    rw [h] at hhas; cases hhas
  · intro h name
    rw [Bool.eq_false_iff]
    intro hhas
    obtain ⟨item, hitem, -, hshown, hfails⟩ := has_validate_all.1 hhas
    exact hfails (h item hitem hshown)

/-- If all views pass, no message is left, not even one of the host. -/
theorem errors_validate_all (hplaced : session.IsPlaced) (hnone : (session.validate .all).1 = .empty) :
    (session.validate .all).2.state.errors = .empty := by
  have herrors : (session.validate .all).2.state.errors =
      (session.form.replaceMessages session.state .all (session.validate .all).1).errors :=
    session.errors_commit _
  rw [herrors, hnone]
  refine NameMap.ext fun name => ?_
  rw [Form.get?_errors_replaceMessages, Form.coveredIds_all]
  split
  · rfl
  · -- no message is about anything but an item of the form, not even one that the host sent
    rename_i hname
    rw [NameMap.get?_empty, ← Option.not_isSome_iff_eq_none]
    intro hhas
    obtain ⟨item, hitem, rfl⟩ := hplaced.errors name hhas
    exact hname (List.mem_map_of_mem hitem)

/-- What is sent are the answers of the items that are shown, and of those that say so. -/
theorem mem_payload {name : String} {value : Json} : (name, value) ∈ session.payload ↔
    ∃ item ∈ session.form.items, item.answer? = some name ∧
      (session.ShowsItem item ∨ item.source.includeWhenHidden = true) ∧
      value = item.source.shape ((session.state.value? name).getD .null) := by
  rw [payload, Form.mem_payload]
  constructor
  · rintro ⟨view, hview, item, hitem, hanswer, hshown, hvalue⟩
    refine ⟨item, Form.mem_items_iff.2 ⟨view, hview, hitem⟩, hanswer, ?_, hvalue⟩
    exact hshown.imp (fun hshown => ⟨hshown.2, view, hview, hitem, hshown.1⟩) id
  · rintro ⟨item, hitem, hanswer, ⟨hvisible, view, hview, hmem, hshown⟩ | hincluded, hvalue⟩
    · exact ⟨view, hview, item, hmem, hanswer, .inl ⟨hshown, hvisible⟩, hvalue⟩
    · obtain ⟨view, hview, hmem⟩ := Form.mem_items_iff.1 hitem
      exact ⟨view, hview, item, hmem, hanswer, .inr hincluded, hvalue⟩

end Session

namespace Journey

variable {journey : Journey} {request : NavigationRequest}

/-- The item that a request names, if it names one, is an action item of the form. -/
def NamesAction (journey : Journey) (request : NavigationRequest) : Prop :=
  ∀ id, request.via = some id →
    ∃ item ∈ journey.session.form.items, item.id = id ∧ item.source.kind = .action

theorem exists_requestedItem (h : journey.NamesAction request) :
    ∃ item, journey.requestedItem request.via = .ok item := by
  cases hvia : request.via with
  | none => exact ⟨none, rfl⟩
  | some id =>
    obtain ⟨item, hitem, rfl, hkind⟩ := h id hvia
    have hfound : journey.session.form.item? item.id = some item := by
      cases hfind : journey.session.form.item? item.id with
      | none => exact absurd (beq_self_eq_true item.id) (List.find?_eq_none.1 hfind item hitem)
      | some found =>
        have hid : found.id = item.id := by simpa using List.find?_some hfind
        rw [Form.item_ext_id (List.mem_of_find?_eq_some hfind) hitem hid]
    have haction : journey.session.actionItem? item.id = some item := by
      rw [Session.actionItem?, hfound]
      exact Option.filter_eq_some_iff.2 ⟨rfl, by rw [hkind]; rfl⟩
    exact ⟨some item, by rw [requestedItem, haction]⟩

theorem prepare_submit {origin : String} (hview : (journey.session.form.view? origin).isSome = true)
    (hsubmit : request.action = .submit) (hvia : journey.NamesAction request) :
    ((journey.session.validate .all).1 = .empty ∧
      journey.prepare request origin = (.ok ⟨origin, (journey.session.validate .all).2.payload, none⟩,
        { journey with session := (journey.session.validate .all).2 }.enter .resolvingNext)) ∨
    ((journey.session.validate .all).1 ≠ .empty ∧
      journey.prepare request origin = (.error (.blocked (journey.session.validate .all).1),
        { journey with session := (journey.session.validate .all).2 }.enter .validating)) := by
  obtain ⟨view, hview⟩ := Option.isSome_iff_exists.1 hview
  obtain ⟨item, hitem⟩ := exists_requestedItem hvia
  have hcheck : journey.check origin request.action = ((journey.session.validate .all).1,
      { journey with session := (journey.session.validate .all).2 }.enter .validating) := by
    rw [hsubmit]; rfl
  simp only [prepare, hview, hitem, hcheck]
  by_cases hnone : (journey.session.validate .all).1 = .empty
  · refine .inl ⟨hnone, ?_⟩
    rw [hnone, hsubmit]; rfl
  · have hsome : (journey.session.validate .all).1.isEmpty = false :=
      Bool.eq_false_iff.2 fun hempty => hnone (NameMap.isEmpty_iff.1 hempty)
    exact .inr ⟨hnone, by rw [hsome]; rfl⟩

theorem begin_of_prepared {hostRequest : HostRequest} {next : Journey}
    (h : prepare { journey with controller := journey.controller.cancelFlight } request
      journey.session.state.currentView = (.ok hostRequest, next)) :
    (∃ pending, (journey.begin request).1 = .ok pending ∧ pending.request = hostRequest) ∧
      (journey.begin request).2.session = next.session := by
  simp only [begin, h]
  exact ⟨⟨_, rfl, rfl⟩, trivial⟩

theorem begin_of_unprepared {error : NavigationError} {next : Journey}
    (h : prepare { journey with controller := journey.controller.cancelFlight } request
      journey.session.state.currentView = (.error error, next)) :
    (journey.begin request).1 = .error error ∧ (journey.begin request).2.session = next.session := by
  simp only [begin, h]
  exact ⟨trivial, rfl⟩

/-- A request to submit validates everything. It is issued with what the validated session sends if
nothing is found, and else it is refused with what is found. -/
theorem begin_submit (hplaced : journey.session.IsPlaced) (hsubmit : request.action = .submit)
    (hvia : journey.NamesAction request) :
    (journey.begin request).2.session = (journey.session.validate .all).2 ∧
      (((journey.session.validate .all).1 = .empty ∧ ∃ pending, (journey.begin request).1 = .ok pending ∧
        pending.request.data = (journey.session.validate .all).2.payload) ∨
      ((journey.session.validate .all).1 ≠ .empty ∧
        (journey.begin request).1 = .error (.blocked (journey.session.validate .all).1))) := by
  let freed : Journey := { journey with controller := journey.controller.cancelFlight }
  have hview : (freed.session.form.view? journey.session.state.currentView).isSome = true := hplaced.view
  have hfreed : freed.NamesAction request := hvia
  rcases prepare_submit hview hsubmit hfreed with ⟨hnone, hprepare⟩ | ⟨hsome, hprepare⟩
  · obtain ⟨⟨pending, hpending, hrequest⟩, hsession⟩ := begin_of_prepared hprepare
    exact ⟨hsession, .inl ⟨hnone, pending, hpending, by rw [hrequest]⟩⟩
  · obtain ⟨herror, hsession⟩ := begin_of_unprepared hprepare
    exact ⟨hsession, .inr ⟨hsome, herror⟩⟩

/-- A request that is refused leaves no request under way, and its ticket is not issued. -/
theorem controller_of_refused {error : NavigationError} (h : (journey.begin request).1 = .error error) :
    (journey.begin request).2.controller.nextTicket = journey.controller.nextTicket ∧
      (journey.begin request).2.controller.flight = none := by
  have hevent : journey.event (.begin request) = .refused := by simp only [event, h]
  have hmoves := begin_moves journey request
  rw [hevent] at hmoves
  generalize (journey.begin request).2.controller = next at hmoves
  cases hmoves with
  | refused view => exact ⟨Controller.nextTicket_cancelFlight, Controller.flight_cancelFlight⟩

/-- What a request to submit sends was validated. It is issued if and only if every item that is shown
passes. Then no message is left, and sent are the answers of these items, as they are in the state
that passed, and of those that are sent even when hidden. Else it is refused with the items that do not
pass, and no ticket is issued. -/
theorem submits_validated (h : journey.Reachable) (hsubmit : request.action = .submit)
    (hvia : journey.NamesAction request) :
    let before := journey.session
    let after := (journey.begin request).2.session
    (∀ pending, (journey.begin request).1 = .ok pending →
      after.state.errors = .empty ∧
      (∀ item ∈ after.form.items, after.ShowsItem item → item.Passes after.setting after.state) ∧
      (∀ name value, (name, value) ∈ pending.request.data ↔ ∃ item ∈ after.form.items,
        item.answer? = some name ∧ (after.ShowsItem item ∨ item.source.includeWhenHidden = true) ∧
        value = item.source.shape ((after.state.value? name).getD .null))) ∧
    ((∀ item ∈ before.form.items, before.ShowsItem item → item.Passes before.setting before.state) →
      ∃ pending, (journey.begin request).1 = .ok pending) ∧
    ((∃ item ∈ before.form.items, before.ShowsItem item ∧ ¬ item.Passes before.setting before.state) →
      ∃ errors, (journey.begin request).1 = .error (.blocked errors) ∧
        (∀ name, errors.has name = true ↔ ∃ item ∈ before.form.items, item.id = name ∧
          before.ShowsItem item ∧ ¬ item.Passes before.setting before.state) ∧
        (journey.begin request).2.controller.nextTicket = journey.controller.nextTicket ∧
        (journey.begin request).2.controller.flight = none) := by
  intro before after
  obtain ⟨hafter, hresult⟩ := begin_submit h.isPlaced hsubmit hvia
  rw [show after = (before.validate .all).2 from hafter]
  rcases hresult with ⟨hnone, pending, hpending, hdata⟩ | ⟨hsome, hblocked⟩
  · have hpasses := Session.validate_all_eq_empty_iff.1 hnone
    refine ⟨fun other hother => ?_, fun _ => ⟨pending, hpending⟩, ?_⟩
    · obtain rfl : pending = other := Except.ok.inj (hpending.symm.trans hother)
      refine ⟨Session.errors_validate_all h.isPlaced hnone, fun item hitem hshown => ?_, fun name value => ?_⟩
      · exact Session.passes_validate.2 (hpasses item hitem (Session.showsItem_validate.1 hshown))
      · rw [hdata]
        exact Session.mem_payload
    · rintro ⟨item, hitem, hshown, hfails⟩
      exact absurd (hpasses item hitem hshown) hfails
  · refine ⟨fun pending hpending => ?_, fun hpasses => ?_, fun _ => ?_⟩
    · exact nomatch hblocked.symm.trans hpending
    · exact absurd (Session.validate_all_eq_empty_iff.2 hpasses) hsome
    · exact ⟨_, hblocked, fun name => Session.has_validate_all, controller_of_refused hblocked⟩

/-! ### A form to try -/

/-- Consent is asked for, and needed, where an age is given. -/
def consentDefinition : Definition where
  id := "consent"
  title := "Consent"
  version := "1"
  views := [{ id := "only", items := [
    { id := "age", kind := .text },
    { id := "consent", kind := .checkbox, visible := some ⟨"data.age", ["age"]⟩,
      validation := [⟨.custom, "data.consent", "Please agree", []⟩] }] }]

/-- The form of `consentDefinition`, with its rules parsed. -/
def consentForm : Form where
  definition := consentDefinition
  sound := by decide
  views := [⟨0, consentDefinition.views[0], none, none, [
    ⟨0, 0, consentDefinition.items[0], none, none, none, none, [], [], none⟩,
    ⟨1, 0, consentDefinition.items[1],
      some ⟨⟨"data.age", .ok (.path .data [.field "age"])⟩, ["age"]⟩, none, none, none, [],
      [⟨⟨.custom, "data.consent", "Please agree", []⟩,
        .custom ⟨"data.consent", .ok (.path .data [.field "consent"])⟩⟩], none⟩]⟩]
  views_eq := by
    have hage : (Token.scan "data.age").toOption =
        some [⟨.ident "data", 0⟩, ⟨.dot, 4⟩, ⟨.ident "age", 5⟩] := by decide +kernel
    have hconsent : (Token.scan "data.consent").toOption =
        some [⟨.ident "data", 0⟩, ⟨.dot, 4⟩, ⟨.ident "consent", 5⟩] := by decide +kernel
    rw [← Expression.parse_field hage, ← Expression.parse_field hconsent]; rfl
  items := _
  items_eq := rfl
  index := _
  index_eq := rfl

/-- A journey whose host has complained about the consent. -/
def consentJourney (answers : Fields Json) : Journey :=
  (ofSession (.start consentForm {} answers)).perform (.session (.mergeHostErrors [⟨"consent", "Expired"⟩]))

/-- Without an age, the complaint of the host about the hidden item is dropped and the form is
submitted. With one, the missing consent is found and no ticket is issued. -/
theorem submits_validated_consent :
    (consentJourney []).session.state.errors.has "consent" = true ∧
    ((consentJourney []).begin ⟨.submit, none⟩).2.session.state.errors = .empty ∧
    ∃ errors, ((consentJourney [("age", .str "7")]).begin ⟨.submit, none⟩).1 = .error (.blocked errors) ∧
      errors.has "consent" = true := by
  have hreachable : ∀ answers, (consentJourney answers).Reachable :=
    fun answers => .perform _ (.start consentForm {} answers)
  have hvia : ∀ answers, (consentJourney answers).NamesAction ⟨.submit, none⟩ := fun _ _ h => nomatch h
  have hfree := submits_validated (hreachable []) rfl (hvia [])
  have hasked := submits_validated (hreachable [("age", .str "7")]) rfl (hvia _)
  refine ⟨by decide +kernel, ?_, ?_⟩
  · have hissued : ((consentJourney []).begin ⟨.submit, none⟩).1.toOption.isSome = true := by decide +kernel
    cases hbegin : ((consentJourney []).begin ⟨.submit, none⟩).1 with
    | error error => rw [hbegin] at hissued; cases hissued
    | ok pending => exact (hfree.1 pending hbegin).1
  · let item := consentForm.items.get ⟨1, by decide⟩
    have hitem : item ∈ consentForm.items := List.get_mem _ _
    have hshown : (consentJourney [("age", .str "7")]).session.ShowsItem item :=
      ⟨by decide +kernel, consentForm.views.head (by decide), List.head_mem _, hitem, by decide +kernel⟩
    have hfails : item.failures {} (consentJourney [("age", .str "7")]).session.state ≠ [] := by
      decide +kernel
    rw [Ne, Form.Item.failures_eq_nil_iff hitem] at hfails
    obtain ⟨errors, hblocked, herrors, -⟩ := hasked.2.2 ⟨item, hitem, hshown, hfails⟩
    exact ⟨errors, hblocked, (herrors "consent").2 ⟨item, hitem, rfl, hshown, hfails⟩⟩

end Journey
end Formwork
