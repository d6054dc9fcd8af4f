import Formwork.Proofs.Session.Reachable
import Formwork.Proofs.Session.Ticket

/-!
# The view of a controller

The view that a session is at is kept twice: in the state of the session, and in the controller, as the
view that is edited or, while the host is asked, as the origin of the flight (`Controller.Keeps`). A
request that is begun, in vain or not, brings the two together, and so does one that the host confirms
(`Journey.Aligns`). Nothing else writes the view of the controller anew: refusals and `cancel` go back
to the origin of the flight. But a session does not know its controller, so where a reset or a
resumption moves it to another view, the controller stays behind (`Journey.Moved`), and that is the only
way in which it does.
-/

namespace Formwork

namespace Session

/-- The operations that can take a session to another view without its controller. -/
def Operation.Relocates : Operation → Prop
  | .apply .reset | .resumeAt .. => True
  | _ => False

variable {session : Session} {operation : Operation}

theorem currentView_commit (session : Session) (next : State) :
    (session.commit next).state.currentView = next.currentView := by
  rcases session.state_commit next with ⟨hstate, hsame⟩ | hstate
  · rw [hstate]
    simp only [State.sameContent, Bool.and_eq_true, beq_iff_eq] at hsame
    exact hsame.1.2.symm
  · rw [hstate]

theorem currentView_settle (session : Session) :
    session.settle.2.state.currentView = session.state.currentView := by
  rcases session.settle_eq with h | h
  · rw [h]; rfl
  · rw [h, currentView_commit]
    exact (Form.updated_sameNotes ..).currentView

theorem currentView_validate (session : Session) (scope : Scope) :
    (session.validate scope).2.state.currentView = session.state.currentView := by
  rw [validate, currentView_commit, Form.replaceMessages_eq]

theorem currentView_told (session : Session) (fields : List FieldError) :
    (session.told fields).currentView = session.state.currentView := by
  refine List.foldlRecOn (motive := fun state : State => state.currentView = session.state.currentView)
    fields _ rfl fun state hstate error _ => ?_
  rw [tell]
  split
  · exact hstate
  · exact hstate

theorem currentView_perform (h : ¬ operation.Relocates) :
    (session.perform operation).state.currentView = session.state.currentView := by
  have hsettle : ∀ staged, session.settles? operation = some staged →
      staged.settle.2.state.currentView = session.state.currentView := fun staged hstaged => by
    rw [currentView_settle, eq_of_settles hstaged]; rfl
  cases operation with
  | stage answer value =>
    show (session.stage answer value).state.currentView = _
    rw [stage_eq]; rfl
  | settle => exact hsettle _ rfl
  | apply update =>
    cases update with
    | answer | answers => exact hsettle _ rfl
    | reset => exact absurd trivial h
  | validate scope => exact currentView_validate session scope
  | mergeHostErrors fields => exact (currentView_commit ..).trans (currentView_told session fields)
  | resumeAt view completed => exact absurd trivial h

end Session

namespace Controller

/-- The controller is at a view, or goes back to it when the request under way ends in vain. -/
def Keeps (controller : Controller) (view : String) : Prop :=
  controller.phase = .editing view ∨
    ∃ flight, controller.flight = some flight ∧ flight.origin = view

end Controller

namespace Journey

/-- The operation takes the controller to the view of the session: a request is begun, or confirmed by
the host. -/
def Aligns (journey : Journey) : Operation → Prop
  | .begin _ => True
  | .complete ticket answer => ∃ state, (journey.complete ticket answer).1 = .ok state
  | .session _ | .cancel => False

/-- A reset or a resumption has moved the session to another view, and since then no operation has
taken the controller there. -/
inductive Moved (journey : Journey) : List Operation → Prop
  | moves (operations : List Operation) (operation : Session.Operation) : operation.Relocates →
    (journey.after (operations ++ [.session operation])).session.state.currentView ≠
      (journey.after operations).session.state.currentView →
    Moved journey (operations ++ [.session operation])
  | stays (operations : List Operation) (operation : Operation) : Moved journey operations →
    ¬ (journey.after operations).Aligns operation → Moved journey (operations ++ [operation])

variable {journey : Journey} {operation : Operation} {view : String}

theorem currentView_begin (journey : Journey) (request : NavigationRequest) :
    (journey.begin request).2.session.state.currentView = journey.session.state.currentView := by
  rcases session_begin journey request with hsession | ⟨scope, hsession⟩
  · rw [hsession]
  · rw [hsession, Session.currentView_validate]

theorem keeps_begin {request : NavigationRequest} (h : (journey.begin request).2.controller.Keeps view) :
    view = journey.session.state.currentView := by
  obtain ⟨phase, hphase⟩ := prepare_controller { journey with controller := journey.controller.cancelFlight }
    request journey.session.state.currentView
  simp only [begin] at h
  generalize prepare _ request _ = prepared at h hphase
  obtain ⟨result, next⟩ := prepared
  cases result with
  | error error =>
    rcases h with h | ⟨flight, hflight, -⟩
    · exact (Phase.editing.inj h).symm
    · -- the request under way was cancelled first
      simp only [enter] at hflight hphase
      rw [hphase] at hflight
      simp at hflight
  | ok hostRequest =>
    rcases h with h | ⟨flight, hflight, horigin⟩
    · cases h
    · cases hflight; exact horigin.symm

/-- Where the request under way is completed, the controller is at the view of the session if the host
confirms it, and else back at the view that the request is from. -/
theorem keeps_land {flight : Flight} (answer : HostAnswer) (hflight : journey.controller.flight = none)
    (h : (journey.land flight answer).2.controller.Keeps view) :
    view = (journey.land flight answer).2.session.state.currentView ∨
      view = flight.origin ∧ ∀ state, (journey.land flight answer).1 ≠ .ok state := by
  have hediting : ∀ place, (journey.land flight answer).2.controller =
      { journey.controller with phase := .editing place } → view = place := by
    intro place hplace
    rw [hplace] at h
    rcases h with h | ⟨other, hother, -⟩
    · exact (Phase.editing.inj h).symm
    · rw [show journey.controller.flight = some other from hother] at hflight; cases hflight
  cases answer with
  | error error => exact .inr ⟨hediting _ rfl, fun state hstate => by cases hstate⟩
  | ok place =>
    simp only [land] at hediting ⊢
    split at hediting
    · rw [if_pos ‹_›]
      exact .inl (hediting _ rfl)
    · rw [if_neg ‹_›]
      exact .inr ⟨hediting _ rfl, fun state hstate => by cases hstate⟩

theorem currentView_land {flight : Flight} (answer : HostAnswer)
    (h : ∀ state, (journey.land flight answer).1 ≠ .ok state) :
    (journey.land flight answer).2.session.state.currentView = journey.session.state.currentView := by
  cases answer with
  | error error =>
    cases error with
    | transport reason => rfl
    | validation fields => exact (Session.currentView_commit ..).trans (Session.currentView_told ..)
  | ok place =>
    simp only [land] at h ⊢
    split
    · rw [if_pos ‹_›] at h
      exact absurd rfl (h _)
    · rfl

/-- A view that the controller keeps after an operation is the view of the session, or the controller
has kept it before and the operation has not told it of the session. -/
theorem keeps_perform (h : (journey.perform operation).controller.Keeps view) :
    view = (journey.perform operation).session.state.currentView ∨
      journey.controller.Keeps view ∧ ¬ journey.Aligns operation := by
  cases operation with
  | session operation => exact .inr ⟨h, id⟩
  | begin request => exact .inl ((keeps_begin h).trans (currentView_begin journey request).symm)
  | complete ticket answer =>
    by_cases hflight : ∃ flight, journey.controller.flight = some flight ∧ flight.ticket = ticket
    · obtain ⟨flight, hflight, rfl⟩ := hflight
      have hcomplete := complete_of_flight answer hflight
      simp only [perform, Aligns] at h ⊢
      rw [hcomplete] at h ⊢
      rcases keeps_land answer rfl h with hview | ⟨rfl, hrefused⟩
      · exact .inl hview
      · exact .inr ⟨.inr ⟨flight, hflight, rfl⟩, fun ⟨state, hstate⟩ => hrefused state hstate⟩
    · have hcomplete := complete_of_no_flight answer
        fun flight hsome heq => hflight ⟨flight, hsome, heq⟩
      simp only [perform, Aligns] at h ⊢
      rw [hcomplete] at h ⊢
      exact .inr ⟨h, fun ⟨state, hstate⟩ => by cases hstate⟩
  | cancel =>
    refine .inr ⟨?_, id⟩
    simp only [perform, cancel, Controller.cancel] at h
    split at h
    · rename_i flight hflight
      rcases h with h | ⟨other, hother, -⟩
      · exact .inr ⟨flight, hflight, Phase.editing.inj h⟩
      · simp at hother
    · exact h

/-- Only resets, resumptions and requests that the host confirms take a session to another view. -/
theorem relocates_of_currentView_ne (haligns : ¬ journey.Aligns operation)
    (h : (journey.perform operation).session.state.currentView ≠ journey.session.state.currentView) :
    ∃ move : Session.Operation, operation = .session move ∧ move.Relocates := by
  cases operation with
  | session operation =>
    by_contra hnone
    exact h (Session.currentView_perform fun hrelocates => hnone ⟨operation, rfl, hrelocates⟩)
  | begin request => exact absurd trivial haligns
  | complete ticket answer =>
    have hrefused : ∀ state, (journey.complete ticket answer).1 ≠ .ok state :=
      fun state hstate => haligns ⟨state, hstate⟩
    refine absurd ?_ h
    show (journey.complete ticket answer).2.session.state.currentView = _
    by_cases hflight : ∃ flight, journey.controller.flight = some flight ∧ flight.ticket = ticket
    · obtain ⟨flight, hflight, rfl⟩ := hflight
      rw [complete_of_flight answer hflight] at hrefused ⊢
      exact currentView_land answer hrefused
    · rw [complete_of_no_flight answer fun flight hsome heq => hflight ⟨flight, hsome, heq⟩]
  | cancel => exact absurd rfl h

/-! ### Runs -/

variable {session : Session} {operations : List Operation}

/-- The view that the controller keeps after any operations is that of the session, unless that has
moved. -/
theorem keeps_after (h : ((ofSession session).after operations).controller.Keeps view) :
    view = ((ofSession session).after operations).session.state.currentView ∨
      (ofSession session).Moved operations := by
  induction operations using List.reverseRecOn with
  | nil =>
    rcases h with h | ⟨flight, hflight, -⟩
    · exact .inl (Phase.editing.inj h).symm
    · cases hflight
  | append_singleton operations operation ih =>
    rw [after_concat] at h ⊢
    rcases keeps_perform h with hview | ⟨hkeeps, haligns⟩
    · exact .inl hview
    rcases ih hkeeps with hview | hmoved
    · by_cases hsame : (((ofSession session).after operations).perform operation).session.state.currentView =
          ((ofSession session).after operations).session.state.currentView
      · exact .inl (hview.trans hsame.symm)
      · obtain ⟨move, rfl, hrelocates⟩ := relocates_of_currentView_ne haligns hsame
        exact .inr (.moves operations move hrelocates (by rw [after_concat]; exact hsame))
    · exact .inr (.stays operations operation hmoved haligns)

/-- While it is editing, a controller shows the view of its session, unless a reset or a resumption has
moved the session to another view since the controller was created, last began a request or last had one
confirmed by the host. -/
theorem shows_session_view (session : Session) (operations : List Operation) (view : String)
    (h : ((ofSession session).after operations).controller.phase = .editing view) :
    view = ((ofSession session).after operations).session.state.currentView ∨
      (ofSession session).Moved operations :=
  keeps_after (.inl h)

end Journey

/-! ### A form to try -/

/-- Two views without items. -/
def Form.pagesDefinition : Definition where
  id := "pages"
  title := "Pages"
  version := "1"
  views := [{ id := "first" }, { id := "second" }]

/-- The form of `pagesDefinition`. -/
def Form.pages : Form where
  definition := pagesDefinition
  sound := by decide
  views := [⟨0, pagesDefinition.views[0], none, none, []⟩, ⟨1, pagesDefinition.views[1], none, none, []⟩]
  views_eq := rfl
  items := _
  items_eq := rfl
  index := _
  index_eq := rfl

namespace Journey

/-- A session is taken up at its second view. The request that is begun there fails, and the controller
goes back to the view that the session is at. -/
theorem shows_session_view_resumed :
    let operations : List Operation := [.session (.resumeAt "second" []), .begin ⟨.save, none⟩,
      .complete 1 (.error (.transport "timeout"))]
    let journey := (ofSession (.start Form.pages {} [])).after operations
    journey.controller.phase = .editing "second" ∧
      ("second" = journey.session.state.currentView ∨
        (ofSession (.start Form.pages {} [])).Moved operations) := by
  intro operations journey
  have hphase : journey.controller.phase = .editing "second" := by decide +kernel
  exact ⟨hphase, shows_session_view _ operations "second" hphase⟩

/-- Where a session is taken up, the controller that was created before still shows the first view. -/
theorem shows_first_view_after_resumption :
    ¬ ∀ (session : Session) (operations : List Operation) (view : String),
      ((ofSession session).after operations).controller.phase = .editing view →
      view = ((ofSession session).after operations).session.state.currentView := by
  intro h
  have hview := h (.start Form.pages {} []) [.session (.resumeAt "second" [])] "first" (by decide +kernel)
  exact absurd hview (by decide +kernel)

end Journey
end Formwork
