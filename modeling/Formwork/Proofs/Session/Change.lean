import Formwork.Proofs.Pass.Incremental
import Formwork.Proofs.Session.Operation
import Formwork.Proofs.Validation

/-!
# What an operation does to a session

`Journey.Changes` says all that an operation can do to a session: stage an answer, settle what is
staged, start anew, or commit the latest state with a note to it (`Journey.Notes`). A note is about
messages and views and leaves answers, flags and choices alone. Whatever is to be kept by all
operations is shown for these four.
-/

namespace Formwork

namespace Session

/-- The state with the messages of a validation. -/
def validated (session : Session) (scope : Scope) : State :=
  session.form.replaceMessages session.state scope
    (session.form.validate session.setting session.state scope)

/-- The state with a message of the host. -/
def tell (session : Session) (state : State) (error : FieldError) : State :=
  match session.itemOfField? error.field with
  | some item => state.mergeErrors item.id [error.message]
  | none => state.addFormError error.message

/-- The state with messages of the host. -/
def told (session : Session) (fields : List FieldError) : State := fields.foldl session.tell session.state

/-- The state at a view, behind some views that were completed. -/
def resumed (session : Session) (view : String) (completed : List String) : State :=
  { session.state with
    currentView := view
    completedViews := session.state.completedViews.addAll <|
      completed.filter fun id => (session.form.view? id).isSome }

/-- The session that an operation settles, if it settles one: with the answers that it stages. -/
def settles? (session : Session) : Operation → Option Session
  | .settle => some session
  | .apply (.answer id value) => some (session.stage id value)
  | .apply (.answers values) =>
    some (values.foldl (fun session (answer, value) => session.stage answer value) session)
  | .apply .reset | .stage .. | .validate _ | .mergeHostErrors _ | .resumeAt .. => none

/-- A settlement drops what is staged. It commits the state that a pass makes of the staged answers,
unless none of them is new. -/
theorem settle_eq (session : Session) :
    session.settle = ({}, { session with staged := .empty }) ∨
    session.settle =
      ((session.form.runPass session.setting (session.state.setValues session.pending)
          (.changed (Fields.names session.pending))).2,
        { session with staged := .empty }.commit
          (session.form.updated session.setting session.state session.pending)) := by
  rw [settle]
  cases hnone : session.pending.isEmpty with
  | true => exact .inl rfl
  | false => exact .inr rfl

end Session

namespace Journey

variable {journey : Journey}

/-- The drafts that amend the latest state by messages or views. -/
inductive Notes (journey : Journey) : State → Prop
  | validated (scope : Scope) : Notes journey (journey.session.validated scope)
  | told (fields : List FieldError) : Notes journey (journey.session.told fields)
  | resumed (view : String) (completed : List String) :
    (journey.session.form.view? view).isSome = true →
    Notes journey (journey.session.resumed view completed)
  | arrived (flight : Flight) (view : String) : journey.controller.flight = some flight →
    (journey.session.form.view? view).isSome = true →
    Notes journey (arrive journey.session.state flight view)

/-- All that an operation can do to the session. -/
inductive Changes (journey : Journey) : Operation → Session → Prop
  | nothing (operation : Operation) : Changes journey operation journey.session
  | staged (answer : String) (value : Json) :
    Changes journey (.session (.stage answer value)) (journey.session.stage answer value)
  | settled (operation : Session.Operation) (staged : Session) :
    journey.session.settles? operation = some staged →
    Changes journey (.session operation) staged.settle.2
  | reset : Changes journey (.session (.apply .reset)) journey.session.reset.2
  | noted (operation : Operation) (next : State) : journey.Notes next →
    Changes journey operation (journey.session.commit next)

theorem session_check (journey : Journey) (origin : String) (action : HostAction) :
    (journey.check origin action).2.session = journey.session ∨
      ∃ scope, (journey.check origin action).2.session = (journey.session.validate scope).2 := by
  cases action with
  | navigate => exact .inr ⟨.view origin, rfl⟩
  | save => exact .inl rfl
  | submit => exact .inr ⟨.all, rfl⟩

theorem session_prepare (journey : Journey) (request : NavigationRequest) (origin : String) :
    (journey.prepare request origin).2.session = journey.session ∨
      ∃ scope, (journey.prepare request origin).2.session = (journey.session.validate scope).2 := by
  simp only [prepare]
  split
  · exact .inl rfl
  split
  · exact .inl rfl
  split
  · exact session_check journey origin request.action
  split
  · exact session_check journey origin request.action
  · exact session_check journey origin request.action

theorem session_begin (journey : Journey) (request : NavigationRequest) :
    (journey.begin request).2.session = journey.session ∨
      ∃ scope, (journey.begin request).2.session = (journey.session.validate scope).2 := by
  have hprepare := session_prepare { journey with controller := journey.controller.cancelFlight } request
    journey.session.state.currentView
  simp only [begin]
  generalize prepare _ request _ = prepared at hprepare ⊢
  obtain ⟨result, next⟩ := prepared
  cases result with
  | error error => exact hprepare
  | ok hostRequest => exact hprepare

theorem session_complete (journey : Journey) (ticket : Nat) (answer : HostAnswer) :
    (journey.complete ticket answer).2.session = journey.session ∨
    (∃ fields, (journey.complete ticket answer).2.session = journey.session.mergeHostErrors fields) ∨
    ∃ flight view, journey.controller.flight = some flight ∧
      (journey.session.form.view? view).isSome = true ∧
      (journey.complete ticket answer).2.session =
        journey.session.commit (arrive journey.session.state flight view) := by
  simp only [complete]
  split
  · rename_i flight hflight
    split
    · cases answer with
      | error error =>
        cases error with
        | transport reason => exact .inl rfl
        | validation fields => exact .inr (.inl ⟨fields, rfl⟩)
      | ok view =>
        simp only [land]
        split
        · rename_i hview
          exact .inr (.inr ⟨flight, view, hflight, hview, rfl⟩)
        · exact .inl rfl
    · exact .inl rfl
  · exact .inl rfl

theorem perform_changes (journey : Journey) (operation : Operation) :
    journey.Changes operation (journey.perform operation).session := by
  cases operation with
  | session operation =>
    cases operation with
    | stage answer value => exact .staged answer value
    | settle => exact .settled _ _ rfl
    | apply update =>
      cases update with
      | answer | answers => exact .settled _ _ rfl
      | reset => exact .reset
    | validate scope => exact .noted _ _ (.validated scope)
    | mergeHostErrors fields => exact .noted _ _ (.told fields)
    | resumeAt view completed =>
      show journey.Changes _ ((journey.session.resumeAt? view completed).getD journey.session)
      rw [Session.resumeAt?]
      split
      · rename_i hview
        exact .noted _ _ (.resumed view completed hview)
      · exact .nothing _
  | begin request =>
    show journey.Changes _ (journey.begin request).2.session
    rcases session_begin journey request with hsession | ⟨scope, hsession⟩
    · rw [hsession]; exact .nothing _
    · rw [hsession]; exact .noted _ _ (.validated scope)
  | complete ticket answer =>
    show journey.Changes _ (journey.complete ticket answer).2.session
    rcases session_complete journey ticket answer with
      hsession | ⟨fields, hsession⟩ | ⟨flight, view, hflight, hview, hsession⟩
    · rw [hsession]; exact .nothing _
    · rw [hsession]; exact .noted _ _ (.told fields)
    · rw [hsession]; exact .noted _ _ (.arrived flight view hflight hview)
  | cancel => exact .nothing _

end Journey

/-! ### What a note leaves alone -/

/-- States with the same answers, flags and choices, and as many changes before them. -/
structure State.SameBase (next state : State) : Prop where
  values : next.values = state.values
  visibility : next.visibility = state.visibility
  readOnly : next.readOnly = state.readOnly
  choices : next.choices = state.choices
  revision : next.revision = state.revision

namespace State.SameBase

variable {a b c : State}

theorem refl (state : State) : state.SameBase state := ⟨rfl, rfl, rfl, rfl, rfl⟩

theorem trans (h : a.SameBase b) (h' : b.SameBase c) : a.SameBase c :=
  ⟨h.values.trans h'.values, h.visibility.trans h'.visibility, h.readOnly.trans h'.readOnly,
    h.choices.trans h'.choices, h.revision.trans h'.revision⟩

theorem foldl {α : Type} {write : State → α → State} (hwrite : ∀ state x, (write state x).SameBase state)
    (xs : List α) (state : State) : (xs.foldl write state).SameBase state := by
  induction xs generalizing state with
  | nil => exact .refl state
  | cons x xs ih => exact (ih (write state x)).trans (hwrite state x)

end State.SameBase

theorem Journey.Notes.sameBase {journey : Journey} {next : State} (h : journey.Notes next) :
    next.SameBase journey.session.state := by
  cases h with
  | validated scope =>
    rw [Session.validated, Form.replaceMessages_eq]
    exact ⟨rfl, rfl, rfl, rfl, rfl⟩
  | told fields =>
    refine .foldl (fun state error => ?_) fields _
    rw [Session.tell]
    split
    · exact ⟨rfl, rfl, rfl, rfl, rfl⟩
    · exact ⟨rfl, rfl, rfl, rfl, rfl⟩
  | resumed view completed => exact ⟨rfl, rfl, rfl, rfl, rfl⟩
  | arrived flight view => exact ⟨rfl, rfl, rfl, rfl, rfl⟩

/-! ### What a pass leaves alone -/

/-- States with the same messages and views, and as many changes before them. -/
structure State.SameNotes (next state : State) : Prop where
  errors : next.errors = state.errors
  formErrors : next.formErrors = state.formErrors
  currentView : next.currentView = state.currentView
  completedViews : next.completedViews = state.completedViews
  revision : next.revision = state.revision

theorem Form.runPass_sameNotes (form : Form) (setting : Setting) (state : State) (trigger : Trigger) :
    (form.runPass setting state trigger).1.SameNotes state := by
  have haside := (runPass_writes form setting state trigger).1.aside
  exact ⟨(congrArg State.errors haside :), (congrArg State.formErrors haside :),
    (congrArg State.currentView haside :), (congrArg State.completedViews haside :),
    (congrArg State.revision haside :)⟩

theorem Form.updated_sameNotes (form : Form) (setting : Setting) (state : State) (changes : Fields Json) :
    (form.updated setting state changes).SameNotes state := by
  have h := form.runPass_sameNotes setting (state.setValues changes) (.changed (Fields.names changes))
  exact ⟨h.errors, h.formErrors, h.currentView, h.completedViews, h.revision⟩

/-! ### What staging leaves alone -/

namespace Session

variable {session staged : Session} {operation : Session.Operation}

theorem settles_induction {P : Session → Prop}
    (hstage : ∀ session answer value, P session → P (session.stage answer value)) (hsession : P session)
    (h : session.settles? operation = some staged) : P staged := by
  cases operation with
  | settle => cases h; exact hsession
  | apply update =>
    cases update with
    | answer id value => cases h; exact hstage session id value hsession
    | answers values =>
      cases h
      induction values generalizing session with
      | nil => exact hsession
      | cons field values ih => exact ih (hstage session field.1 field.2 hsession)
    | reset => cases h
  | stage | validate | mergeHostErrors | resumeAt => cases h

theorem stage_eq (session : Session) (answer : String) (value : Json) :
    session.stage answer value = { session with staged := (session.stage answer value).staged } := by
  rw [stage]
  split
  · rfl
  · rfl

theorem eq_of_settles (h : session.settles? operation = some staged) :
    staged = { session with staged := staged.staged } := by
  refine settles_induction (P := fun next => next = { session with staged := next.staged })
    (fun next answer value hnext => ?_) rfl h
  rw [stage_eq, hnext]

theorem form_settle (session : Session) : session.settle.2.form = session.form := by
  rcases session.settle_eq with h | h
  · rw [h]
  · rw [h]; rfl

end Session

namespace Journey

variable {journey : Journey} {operation : Operation} {session : Session}

theorem Changes.form (h : journey.Changes operation session) : session.form = journey.session.form := by
  cases h with
  | nothing => rfl
  | staged answer value => rw [Session.stage_eq]
  | settled operation staged hsettles =>
    rw [Session.form_settle, Session.eq_of_settles hsettles]
  | reset => rfl
  | noted => rfl

theorem form_after (journey : Journey) (operations : List Operation) :
    (journey.after operations).session.form = journey.session.form :=
  List.foldlRecOn (motive := fun next : Journey => next.session.form = journey.session.form)
    operations _ rfl fun next hnext operation _ => (perform_changes next operation).form.trans hnext

end Journey

end Formwork
