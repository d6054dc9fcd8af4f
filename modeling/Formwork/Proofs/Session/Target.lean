import Formwork.Proofs.Session.Retry

/-!
# The view that comes next

A request to navigate goes where the rule of its action item says, else where the rule of the view says, else
to the next view (`Session.Leads`). A rule only counts if it names a view that is shown, and only such a view
is next, so the target always is one (`Session.target?_eq_some_iff`). There is no next view only where neither
rule counts and no view behind is shown (`Journey.navigates_by_precedence`).
-/

namespace Formwork

/-! ### Places of views -/

namespace Form

variable {form : Form} {view : View}

theorem View.index_of_getElem? {index firstItem : Nat} {views : List Definition.View} {i : Nat}
    (h : (ofDefinitions index firstItem views)[i]? = some view) : view.index = index + i := by
  induction views generalizing index firstItem i with
  | nil => cases h
  | cons first rest ih =>
    rw [ofDefinitions] at h
    cases i with
    | zero => cases h; rfl
    | succ i =>
      rw [List.getElem?_cons_succ] at h
      rw [ih h]
      omega

/-- The place of a view is how many stand before it. -/
theorem drop_index {before rest : List View} (h : form.views = before ++ view :: rest) :
    form.views.drop (view.index + 1) = rest := by
  have hplace : form.views[before.length]? = some view := by
    rw [h, List.getElem?_append_right (Nat.le_refl _), Nat.sub_self]; rfl
  rw [form.views_eq] at hplace
  rw [View.index_of_getElem? hplace, Nat.zero_add, h, List.drop_append, List.drop_eq_nil_of_le (Nat.le_succ _),
    Nat.add_sub_cancel_left]
  rfl

end Form

namespace Session

variable {session : Session} {view : Form.View} {action : Option Form.Item} {target : String}

/-! ### Targets -/

/-- A rule names a view: it yields the id, not empty, of a view that is shown. -/
def Names (session : Session) (rule : Option Form.Rule) (target : String) : Prop :=
  (∃ asked, rule = some asked ∧
    session.setting.ask? session.state.values asked.expression = some (.str target)) ∧
  target ≠ "" ∧ ∃ next ∈ session.form.views, next.id = target ∧ session.shows next = true

/-- Where a view leads to: what the rule of the action item names, or what the rule of the view names if the
first one names none, or the first view behind that is shown if neither does. -/
inductive Leads (session : Session) (view : Form.View) (action : Option Form.Item) : String → Prop
  | byAction {target : String} : session.Names (action.bind (·.nextView)) target →
    Leads session view action target
  | byView {target : String} : (∀ other, ¬ session.Names (action.bind (·.nextView)) other) →
    session.Names view.nextView target → Leads session view action target
  | byOrder {before between after : List Form.View} {next : Form.View} :
    (∀ other, ¬ session.Names (action.bind (·.nextView)) other) →
    (∀ other, ¬ session.Names view.nextView other) →
    session.form.views = before ++ view :: (between ++ next :: after) →
    (∀ other ∈ between, session.shows other = false) → session.shows next = true →
    Leads session view action next.id

theorem names_iff {rule : Option Form.Rule} :
    rule.bind session.ruledTarget? = some target ↔ session.Names rule target := by
  have hknown : (session.form.view? target).any session.shows = true ↔
      ∃ next ∈ session.form.views, next.id = target ∧ session.shows next = true := by
    rw [Option.any_eq_true]
    constructor
    · rintro ⟨next, hfound, hshown⟩
      obtain ⟨hnext, hid⟩ := Form.view?_eq_some_iff.1 hfound
      exact ⟨next, hnext, hid, hshown⟩
    · rintro ⟨next, hnext, hid, hshown⟩
      exact ⟨next, Form.view?_eq_some_iff.2 ⟨hnext, hid⟩, hshown⟩
  rw [Option.bind_eq_some_iff, Names, ← hknown]
  constructor
  · rintro ⟨asked, hrule, htarget⟩
    unfold ruledTarget? at htarget
    split at htarget
    · rename_i named hasked
      split at htarget
      · rename_i hcounts
        cases htarget
        obtain ⟨hsome, hshown⟩ := Bool.and_eq_true_iff.1 hcounts
        exact ⟨⟨asked, hrule, hasked⟩, by simpa using hsome, hshown⟩
      · cases htarget
    · cases htarget
  · rintro ⟨⟨asked, hrule, hasked⟩, hsome, hshown⟩
    refine ⟨asked, hrule, ?_⟩
    rw [ruledTarget?, hasked]
    exact if_pos (by simp [hsome, hshown])

theorem following?_eq_some_iff (hview : view ∈ session.form.views) : session.following? view = some target ↔
    ∃ before between next after, session.form.views = before ++ view :: (between ++ next :: after) ∧
      (∀ other ∈ between, session.shows other = false) ∧ session.shows next = true ∧ next.id = target := by
  rw [following?, Option.map_eq_some_iff]
  constructor
  · rintro ⟨next, hnext, rfl⟩
    obtain ⟨before, rest, hviews⟩ := List.append_of_mem hview
    rw [Form.drop_index hviews, List.find?_eq_some_iff_append] at hnext
    obtain ⟨hshown, between, after, rfl, hbetween⟩ := hnext
    exact ⟨before, between, next, after, hviews, fun other hother => by simpa using hbetween other hother, hshown, rfl⟩
  · rintro ⟨before, between, next, after, hviews, hbetween, hshown, rfl⟩
    refine ⟨next, ?_, rfl⟩
    rw [Form.drop_index hviews, List.find?_eq_some_iff_append]
    exact ⟨hshown, between, after, rfl, fun other hother => by simpa using hbetween other hother⟩

/-- What is found is where the view leads to. -/
theorem target?_eq_some_iff (hview : view ∈ session.form.views) :
    session.target? view action = some target ↔ session.Leads view action target := by
  have hnone {rule : Option Form.Rule} :
      rule.bind session.ruledTarget? = none ↔ ∀ other, ¬ session.Names rule other := by
    simp only [Option.eq_none_iff_forall_ne_some, ← names_iff, ne_eq]
  rw [target?, Option.orElse_eq_some, Option.orElse_eq_some, names_iff, hnone, hnone, names_iff,
    following?_eq_some_iff hview]
  constructor
  · rintro (h | ⟨haction, h | ⟨hrule, before, between, next, after, hviews, hbetween, hshown, rfl⟩⟩)
    · exact .byAction h
    · exact .byView haction h
    · exact .byOrder haction hrule hviews hbetween hshown
  · intro h
    cases h with
    | byAction h => exact .inl h
    | byView haction h => exact .inr ⟨haction, .inl h⟩
    | byOrder haction hrule hviews hbetween hshown =>
      exact .inr ⟨haction, .inr ⟨hrule, _, _, _, _, hviews, hbetween, hshown, rfl⟩⟩

/-- A view leads to a view that is shown. -/
theorem Leads.exists_shown (h : session.Leads view action target) :
    ∃ next ∈ session.form.views, next.id = target ∧ session.shows next = true := by
  cases h with
  | byAction h => exact h.2.2
  | byView _ h => exact h.2.2
  | @byOrder before between after next _ _ hviews _ hshown =>
    exact ⟨next, by rw [hviews]; simp, rfl, hshown⟩

/-- A validation does not change where a view leads to. -/
theorem target?_validate (scope : Scope) :
    (session.validate scope).2.target? view action = session.target? view action := by
  have hpart (session : Session) : session.target? view action =
      target? ⟨session.form, session.setting, { current := { values := session.state.values } }, .empty⟩
        view action := rfl
  rw [hpart (session.validate scope).2, (session.validate_state scope).1, hpart session]
  rfl

theorem payload_validate (session : Session) (scope : Scope) :
    (session.validate scope).2.payload = session.payload :=
  (congrArg payload (session.forgetErrors_validate scope) :)

end Session

namespace Journey

variable {journey : Journey} {request : NavigationRequest} {view : Form.View} {action : Option Form.Item}

/-! ### Requests -/

theorem actionItem?_eq_some_iff {id : String} {item : Form.Item} :
    journey.session.actionItem? id = some item ↔
      item ∈ journey.session.form.items ∧ item.id = id ∧ item.source.kind = .action := by
  rw [Session.actionItem?, Option.filter_eq_some_iff, Form.item?_eq_some_iff, and_assoc, beq_iff_eq]

/-- A request names nothing, or an action item. -/
theorem requestedItem_eq_ok_iff {via : Option String} : journey.requestedItem via = .ok action ↔
    via = action.map (·.id) ∧
      ∀ item, action = some item → item ∈ journey.session.form.items ∧ item.source.kind = .action := by
  cases via with
  | none =>
    constructor
    · intro h
      cases h
      exact ⟨rfl, by simp⟩
    · rintro ⟨hnone, -⟩
      rw [Option.map_eq_none_iff.1 hnone.symm]; rfl
  | some id =>
    rw [requestedItem.eq_def]
    constructor
    · intro h
      dsimp only at h
      split at h
      · rename_i item hfound
        cases h
        obtain ⟨hitem, hid, hkind⟩ := actionItem?_eq_some_iff.1 hfound
        exact ⟨congrArg some hid.symm, fun other hother => by cases hother; exact ⟨hitem, hkind⟩⟩
      · cases h
    · rintro ⟨hnamed, haction⟩
      obtain ⟨item, rfl, hid⟩ := Option.map_eq_some_iff.1 hnamed.symm
      obtain ⟨hitem, hkind⟩ := haction item rfl
      dsimp only
      rw [actionItem?_eq_some_iff.2 ⟨hitem, hid, hkind⟩]

/-- What comes of a request to navigate that names an item as it should: it is refused with the messages about
the view, if there are any, and else goes where the view leads to. -/
theorem begin_navigate (hnavigate : request.action = .navigate) (hview : view ∈ journey.session.form.views)
    (hid : view.id = journey.session.state.currentView) (hitem : journey.requestedItem request.via = .ok action) :
    (journey.begin request).1 =
      let (errors, session) := journey.session.validate (.view view.id)
      if errors.isEmpty then
        match journey.session.target? view action with
        | some target =>
          .ok ⟨journey.controller.nextTicket, .navigate, view.id, session.payload, some target⟩
        | none => .error (.noNextView view.id)
      else .error (.blocked errors) := by
  have hfound : journey.session.form.view? view.id = some view := Form.view?_eq_some_iff.2 ⟨hview, rfl⟩
  have hcheck : journey.check view.id .navigate = ((journey.session.validate (.view view.id)).1,
      { journey with session := (journey.session.validate (.view view.id)).2 }.enter .validating) := rfl
  rw [begin_fst, ← hid]
  simp only [prepare, hfound, hitem, hnavigate, hcheck]
  cases hempty : (journey.session.validate (.view view.id)).1.isEmpty with
  | false => rfl
  | true =>
    rw [← journey.session.target?_validate (.view view.id)]
    simp only [Bool.not_true, Bool.false_eq_true, if_false, if_true, resolve, enter]
    cases (journey.session.validate (.view view.id)).2.target? view action with
    | none => rfl
    | some target => rfl

/-- A request to navigate comes as far as to look for a target: it names no item but an action item, and
nothing is found in the view that the session is at. -/
structure Resolves (journey : Journey) (request : NavigationRequest) (view : Form.View)
    (action : Option Form.Item) : Prop where
  declared : view ∈ journey.session.form.views
  current : view.id = journey.session.state.currentView
  named : request.via = action.map (·.id)
  usable : ∀ item, action = some item → item ∈ journey.session.form.items ∧ item.source.kind = .action
  valid : (journey.session.validate (.view view.id)).1 = .empty

theorem begin_of_resolves (hnavigate : request.action = .navigate) (h : journey.Resolves request view action) :
    (journey.begin request).1 =
      match journey.session.target? view action with
      | some target => .ok ⟨journey.controller.nextTicket, .navigate, view.id,
          (journey.session.validate (.view view.id)).2.payload, some target⟩
      | none => .error (.noNextView view.id) := by
  have hitem : journey.requestedItem request.via = .ok action := requestedItem_eq_ok_iff.2 ⟨h.named, h.usable⟩
  refine (begin_navigate hnavigate h.declared h.current hitem).trans (if_pos ?_)
  exact NameMap.isEmpty_iff.2 h.valid

/-- A request that does not come as far names an item that is no action item, or is refused with messages. -/
theorem begin_of_not_resolves (h : journey.Reachable) (hnavigate : request.action = .navigate)
    (hnone : ∀ view action, ¬ journey.Resolves request view action) :
    (∃ id, (journey.begin request).1 = .error (.unknownAction id)) ∨
      ∃ errors, errors ≠ .empty ∧ (journey.begin request).1 = .error (.blocked errors) := by
  obtain ⟨view, hview⟩ := Option.isSome_iff_exists.1 h.isPlaced.view
  obtain ⟨hdeclared, hcurrent⟩ := Form.view?_eq_some_iff.1 hview
  cases hitem : journey.requestedItem request.via with
  | error error =>
    obtain ⟨id, rfl⟩ := eq_unknownAction_of_requestedItem hitem
    refine .inl ⟨id, ?_⟩
    simp only [begin_fst, prepare, hview, hitem, Except.map]
  | ok action =>
    obtain ⟨hnamed, husable⟩ := requestedItem_eq_ok_iff.1 hitem
    have hsome : (journey.session.validate (.view view.id)).1 ≠ .empty := fun hvalid =>
      hnone view action ⟨hdeclared, hcurrent, hnamed, husable, hvalid⟩
    have hfull : (journey.session.validate (.view view.id)).1.isEmpty = false :=
      Bool.eq_false_iff.2 fun hempty => hsome (NameMap.isEmpty_iff.1 hempty)
    refine .inr ⟨_, hsome, (begin_navigate hnavigate hdeclared hcurrent hitem).trans ?_⟩
    show (if (journey.session.validate (.view view.id)).1.isEmpty then _ else _) = _
    rw [hfull]; rfl

/-- Each request to navigate is refused before it looks for a target, or goes where the view leads to. That is
always a view that is shown, and the request is refused for want of a next view if and only if the view leads
nowhere. -/
theorem navigates_by_precedence (h : journey.Reachable) (hnavigate : request.action = .navigate) :
    let session := journey.session
    let outcome := (journey.begin request).1
    (∀ view action, journey.Resolves request view action →
      (∀ pending, outcome = .ok pending → ∃ next ∈ session.form.views, session.shows next = true ∧
        pending.request.nextView = some next.id ∧ session.Leads view action next.id) ∧
      (∀ target, session.Leads view action target →
        ∃ pending, outcome = .ok pending ∧ pending.request.nextView = some target) ∧
      (outcome = .error (.noNextView view.id) ↔ ∀ target, ¬ session.Leads view action target)) ∧
    ((∀ view action, ¬ journey.Resolves request view action) →
      (∃ id, outcome = .error (.unknownAction id)) ∨
        ∃ errors, errors ≠ .empty ∧ outcome = .error (.blocked errors)) := by
  intro session outcome
  refine ⟨fun view action hresolves => ?_, begin_of_not_resolves h hnavigate⟩
  have hbegin := begin_of_resolves hnavigate hresolves
  have hleads {target : String} : session.target? view action = some target ↔
      session.Leads view action target := session.target?_eq_some_iff hresolves.declared
  cases htarget : session.target? view action with
  | some target =>
    rw [htarget] at hbegin
    refine ⟨fun pending hpending => ?_, fun other hother => ?_, ?_⟩
    · obtain ⟨next, hnext, rfl, hshown⟩ := (hleads.1 htarget).exists_shown
      obtain rfl := Except.ok.inj (hbegin.symm.trans hpending)
      exact ⟨next, hnext, hshown, rfl, hleads.1 htarget⟩
    · have hsame : target = other := Option.some.inj (htarget.symm.trans (hleads.2 hother))
      exact ⟨_, hbegin, congrArg some hsame⟩
    · exact iff_of_false (fun herror => nomatch hbegin.symm.trans herror) fun hno => hno target (hleads.1 htarget)
  | none =>
    rw [htarget] at hbegin
    have hno : ∀ target, ¬ session.Leads view action target := fun target hthere =>
      nomatch htarget.symm.trans (hleads.2 hthere)
    refine ⟨fun pending hpending => ?_, fun target htarget => absurd htarget (hno target),
      iff_of_true hbegin hno⟩
    exact nomatch hbegin.symm.trans hpending

/-! ### A form to try -/

/-- The first view goes where one answer says, and its action item where another one does. The view between
is hidden unless that one is given. -/
def routeDefinition : Definition where
  id := "route"
  title := "Route"
  version := "1"
  views := [
    { id := "start", nextView := some ⟨"data.next", ["next"]⟩, items := [
      { id := "skip", kind := .action, nextView := some ⟨"data.jump", ["jump"]⟩ }] },
    { id := "between", visible := some ⟨"data.jump", ["jump"]⟩ },
    { id := "end" }]

/-- The form of `routeDefinition`, with its rules parsed. -/
def routeForm : Form where
  definition := routeDefinition
  sound := by decide
  views := [
    ⟨0, routeDefinition.views[0], none, some ⟨⟨"data.next", .ok (.path .data [.field "next"])⟩, ["next"]⟩, [
      ⟨0, 0, routeDefinition.items[0], none, none, none, none, [], [],
        some ⟨⟨"data.jump", .ok (.path .data [.field "jump"])⟩, ["jump"]⟩⟩]⟩,
    ⟨1, routeDefinition.views[1], some ⟨⟨"data.jump", .ok (.path .data [.field "jump"])⟩, ["jump"]⟩, none, []⟩,
    ⟨2, routeDefinition.views[2], none, none, []⟩]
  views_eq := by
    have hnext : (Token.scan "data.next").toOption =
        some [⟨.ident "data", 0⟩, ⟨.dot, 4⟩, ⟨.ident "next", 5⟩] := by decide +kernel
    have hjump : (Token.scan "data.jump").toOption =
        some [⟨.ident "data", 0⟩, ⟨.dot, 4⟩, ⟨.ident "jump", 5⟩] := by decide +kernel
    rw [← Expression.parse_field hnext, ← Expression.parse_field hjump]; rfl
  items := _
  items_eq := rfl
  index := _
  index_eq := rfl

/-- The rule of the action item comes before that of the view, which does not count where it names the hidden
view. From the last view there is no way on. -/
theorem navigates_by_precedence_route :
    let asked := ofSession (.start routeForm {} [("next", .str "end"), ("jump", .str "between")])
    let hidden := ofSession (.start routeForm {} [("next", .str "between")])
    let last := hidden.perform (.session (.resumeAt "end" []))
    (∃ pending, (asked.begin ⟨.navigate, some "skip"⟩).1 = .ok pending ∧
      pending.request.nextView = some "between") ∧
    (∃ pending, (hidden.begin ⟨.navigate, some "skip"⟩).1 = .ok pending ∧
      pending.request.nextView = some "end") ∧
    (last.begin ⟨.navigate, none⟩).1 = .error (.noNextView "end") := by
  intro asked hidden last
  let start := routeForm.views.get ⟨0, by decide⟩
  let skip := start.items.get ⟨0, by decide⟩
  have hskip : skip ∈ routeForm.items := List.mem_cons_self
  have hasked : asked.Resolves ⟨.navigate, some "skip"⟩ start (some skip) :=
    ⟨List.get_mem _ _, by decide +kernel, rfl, fun item hitem => Option.some.inj hitem ▸ ⟨hskip, rfl⟩,
      NameMap.isEmpty_iff.1 (by decide +kernel)⟩
  have hhidden : hidden.Resolves ⟨.navigate, some "skip"⟩ start (some skip) :=
    ⟨List.get_mem _ _, by decide +kernel, rfl, fun item hitem => Option.some.inj hitem ▸ ⟨hskip, rfl⟩,
      NameMap.isEmpty_iff.1 (by decide +kernel)⟩
  have hlast : last.Resolves ⟨.navigate, none⟩ (routeForm.views.get ⟨2, by decide⟩) none :=
    ⟨List.get_mem _ _, by decide +kernel, rfl, by simp, NameMap.isEmpty_iff.1 (by decide +kernel)⟩
  have hreachable (answers : Fields Json) : (ofSession (.start routeForm {} answers)).Reachable :=
    .start routeForm {} answers
  refine ⟨?_, ?_, ?_⟩
  · refine ((navigates_by_precedence (hreachable _) rfl).1 _ _ hasked).2.1 _ ?_
    exact (Session.target?_eq_some_iff hasked.declared).1 (by decide +kernel)
  · refine ((navigates_by_precedence (hreachable _) rfl).1 _ _ hhidden).2.1 _ ?_
    exact (Session.target?_eq_some_iff hhidden.declared).1 (by decide +kernel)
  · refine ((navigates_by_precedence ((hreachable _).perform _) rfl).1 _ _ hlast).2.2.2 fun target htarget => ?_
    have hnone : last.session.target? (routeForm.views.get ⟨2, by decide⟩) none = none := by decide +kernel
    rw [← Session.target?_eq_some_iff hlast.declared, hnone] at htarget
    cases htarget

end Journey
end Formwork
