import Formwork.Proofs.Pass.Keys
import Formwork.Proofs.Session.Reachable
import Formwork.Proofs.Session.Ticket

/-!
# Well-formed states

A state is well-formed if all that it names is of its form (`State.WellFormed`). Passes give each item
its flags and leave alone what is noted of views and messages; notes leave the flags alone. A view is
completed when a request comes back, and that was issued at a view of the form
(`Journey.flight_perform`). So every operation keeps a journey well-formed
(`Journey.WellFormed.perform`), and no request finds its session at a view that does not exist.
-/

namespace Formwork

open Form (Item)

/-- A state notes as completed only views of its form, an item only where there are messages about it,
and no message about the form twice. -/
structure State.WellNoted (state : State) (form : Form) : Prop where
  completed : ∀ view, state.completedViews.has view = true → (form.view? view).isSome = true
  messages : ∀ name, state.errors.get? name ≠ some []
  formErrors : state.formErrors.Nodup

/-- A state says of each item of its form, and of nothing else, whether it is shown and whether it can
be edited, and has choices only of items with options or a rule for them. -/
structure State.WellFlagged (state : State) (form : Form) : Prop where
  visibility : state.visibility.KeyedBy form.itemIds
  readOnly : state.readOnly.KeyedBy form.itemIds
  choices : ∀ name, state.choices.has name = true →
    ∃ item ∈ form.items, item.id = name ∧ (item.options ≠ [] ∨ item.choices.isSome = true)

structure State.WellFormed (state : State) (form : Form) : Prop extends
  state.BelongsTo form, state.WellNoted form, state.WellFlagged form

variable {form : Form} {setting : Setting} {state next : State} {session : Session}

/-! ### What is noted -/

theorem State.nodup_addNew {known messages : List String} (h : known.Nodup) :
    (addNew known messages).Nodup := by
  refine List.foldlRecOn messages _ h fun known h message _ => ?_
  split
  · exact h
  · rename_i hnew
    exact List.Nodup.append h (List.nodup_singleton message) (by simpa using hnew)

namespace State.WellNoted

theorem congr (h : state.WellNoted form) (hnotes : next.SameNotes state) : next.WellNoted form :=
  ⟨hnotes.completedViews ▸ h.completed, hnotes.errors ▸ h.messages, hnotes.formErrors ▸ h.formErrors⟩

theorem blankState (form : Form) (answers : Fields Json) : (form.blankState answers).WellNoted form where
  completed _ h := by cases h
  messages _ h := by cases h
  formErrors := .nil

theorem replaceErrors (h : state.WellNoted form) (item : String) (messages : List String) :
    (state.replaceErrors item messages).WellNoted form := by
  refine ⟨h.completed, fun name => ?_, h.formErrors⟩
  simp only [State.replaceErrors]
  split
  · rw [NameMap.get?_erase]
    split
    · simp
    · exact h.messages name
  · rename_i hne
    rw [NameMap.get?_insert]
    split
    · simpa using hne
    · exact h.messages name

theorem tell (h : state.WellNoted form) (session : Session) (error : FieldError) :
    (session.tell state error).WellNoted form := by
  rw [Session.tell]
  split
  · exact h.replaceErrors _ _
  · exact ⟨h.completed, h.messages, State.nodup_addNew h.formErrors⟩

theorem notes {journey : Journey} (h : journey.session.state.WellNoted journey.session.form)
    (hflight : ∀ flight, journey.controller.flight = some flight →
      (journey.session.form.view? flight.origin).isSome = true)
    (hnotes : journey.Notes next) : next.WellNoted journey.session.form := by
  cases hnotes with
  | validated scope =>
    rw [Session.validated, Form.replaceMessages]
    exact List.foldlRecOn (motive := fun state : State => state.WellNoted journey.session.form) _ _ h
      fun state hstate item _ => hstate.replaceErrors item.id _
  | told fields =>
    exact List.foldlRecOn (motive := fun state : State => state.WellNoted journey.session.form) fields _ h
      fun state hstate error _ => hstate.tell journey.session error
  | resumed view completed =>
    refine ⟨fun other hother => ?_, h.messages, h.formErrors⟩
    rcases NameSet.has_addAll.1 hother with hother | hother
    · exact h.completed other hother
    · exact (List.mem_filter.1 hother).2
  | arrived flight view hsome =>
    refine ⟨fun other hother => ?_, h.messages, .nil⟩
    simp only [Journey.arrive] at hother
    split at hother
    · exact h.completed other hother
    · rcases NameSet.has_add.1 hother with rfl | hother
      · exact hflight flight hsome
      · exact h.completed other hother

end State.WellNoted

/-! ### Flags and choices -/

namespace State.WellFlagged

/-- A pass keeps flags and choices as they should be. One over all rules makes them so. -/
theorem runPass {trigger : Trigger}
    (hvisibility : trigger = .full ∧ state.visibility = .empty ∨ state.visibility.KeyedBy form.itemIds)
    (hreadOnly : trigger = .full ∧ state.readOnly = .empty ∨ state.readOnly.KeyedBy form.itemIds)
    (hchoices : ∀ name, state.choices.has name = true →
      ∃ item ∈ form.items, item.id = name ∧ (item.options ≠ [] ∨ item.choices.isSome = true)) :
    (form.runPass setting state trigger).1.WellFlagged form where
  visibility := Form.keyedBy_runPass (fun _ _ _ _ => Form.setsFlag_visibility) hvisibility
  readOnly := Form.keyedBy_runPass (fun _ _ _ _ => Form.setsFlag_readOnly) hreadOnly
  choices name h := (Form.has_choices_runPass h).elim (hchoices name) fun h => h

theorem congr (h : state.WellFlagged form) (hbase : next.SameBase state) : next.WellFlagged form :=
  ⟨hbase.visibility ▸ h.visibility, hbase.readOnly ▸ h.readOnly, hbase.choices ▸ h.choices⟩

end State.WellFlagged

theorem State.WellFormed.initialState (form : Form) (setting : Setting) (answers : Fields Json) :
    (form.initialState setting answers).1.WellFormed form :=
  ⟨.initialState form setting answers, .congr (.blankState form answers) (form.runPass_sameNotes ..),
    .runPass (.inl ⟨rfl, rfl⟩) (.inl ⟨rfl, rfl⟩) fun _ h => by cases h⟩

namespace Journey

variable {journey other : Journey} {operation : Operation}

/-! ### Flights -/

/-- A flight after an operation was there before, or is from the view that the session was at. -/
theorem flight_perform {flight : Flight} (h : (journey.perform operation).controller.flight = some flight) :
    journey.controller.flight = some flight ∨ flight.origin = journey.session.state.currentView := by
  cases operation with
  | session operation => exact .inl h
  | cancel =>
    obtain ⟨phase, hcancel, -⟩ := journey.controller.cancel_eq
    rw [show (journey.perform .cancel).controller = _ from hcancel] at h
    simp at h
  | begin request =>
    -- the flight that was there is cancelled, so what is left is the new one or none
    obtain ⟨phase, hphase⟩ := prepare_controller { journey with controller := journey.controller.cancelFlight }
      request journey.session.state.currentView
    simp only [perform, begin] at h
    generalize prepare _ request _ = prepared at h hphase
    obtain ⟨result, next⟩ := prepared
    cases result with
    | error error =>
      simp only [enter] at h hphase
      rw [hphase] at h
      simp at h
    | ok hostRequest =>
      obtain rfl := Option.some.inj h
      exact .inr rfl
  | complete ticket answer =>
    by_cases hflight : ∃ flight, journey.controller.flight = some flight ∧ flight.ticket = ticket
    · obtain ⟨flight, hflight, rfl⟩ := hflight
      obtain ⟨view, hview⟩ := land_controller
        { journey with controller := { journey.controller with flight := none } } flight answer
      simp only [perform] at h
      rw [complete_of_flight answer hflight, hview] at h
      cases h
    · simp only [perform] at h
      rw [complete_of_no_flight answer fun flight hsome heq => hflight ⟨flight, hsome, heq⟩] at h
      exact .inl h

/-! ### Requests at a view of the form -/

-- the other refusals are about the action item, the messages, and the view to go to
theorem prepare_ne_unknownView {origin : String} (journey : Journey) (request : NavigationRequest)
    (view : String) (h : (journey.session.form.view? origin).isSome = true) :
    (journey.prepare request origin).1 ≠ .error (.unknownView view) := by
  simp only [prepare]
  split
  · rename_i hnone
    rw [hnone] at h; cases h
  split
  · rename_i error herror
    simp only [requestedItem] at herror
    split at herror
    · split at herror
      · cases herror
      · cases herror; simp
    · cases herror
  split
  · simp
  split
  · rename_i error herror
    simp only [resolve] at herror
    split at herror
    · split at herror
      · cases herror
      · cases herror; simp
    · cases herror
    · cases herror
  · simp

theorem begin_ne_unknownView (request : NavigationRequest) (view : String)
    (h : (journey.session.form.view? journey.session.state.currentView).isSome = true) :
    (journey.begin request).1 ≠ .error (.unknownView view) := by
  have hprepare := prepare_ne_unknownView
    { journey with controller := journey.controller.cancelFlight } request view h
  simp only [begin]
  generalize prepare _ request _ = prepared at hprepare ⊢
  obtain ⟨result, next⟩ := prepared
  cases result with
  | error error => exact fun heq => hprepare (congrArg Except.error (Except.error.inj heq))
  | ok hostRequest => simp

/-! ### Runs -/

/-- The session of a journey is in a well-formed state, and the request under way, if any, is from a
view of the form. -/
structure WellFormed (journey : Journey) : Prop where
  state : journey.session.state.WellFormed journey.session.form
  flight : ∀ flight, journey.controller.flight = some flight →
    (journey.session.form.view? flight.origin).isSome = true

theorem WellFormed.changes (h : journey.WellFormed) (hchanges : journey.Changes operation session) :
    session.state.WellFormed journey.session.form := by
  have hstate := h.state
  have hplaced : session.IsPlaced := hchanges.isPlaced hstate.toBelongsTo
  rw [Session.IsPlaced, hchanges.form] at hplaced
  have hnoted : session.state.WellNoted journey.session.form :=
    hchanges.state hstate.toWellNoted
      (fun changes => hstate.toWellNoted.congr (Form.updated_sameNotes ..))
      (State.WellFormed.initialState ..).toWellNoted
      (fun next hnotes => hstate.toWellNoted.notes h.flight hnotes)
      fun next revision hnext => ⟨hnext.completed, hnext.messages, hnext.formErrors⟩
  have hflagged : session.state.WellFlagged journey.session.form :=
    hchanges.state hstate.toWellFlagged
      (fun changes => .runPass (.inr hstate.visibility) (.inr hstate.readOnly) hstate.choices)
      (State.WellFormed.initialState ..).toWellFlagged
      (fun next hnotes => hstate.toWellFlagged.congr hnotes.sameBase)
      fun next revision hnext => ⟨hnext.visibility, hnext.readOnly, hnext.choices⟩
  exact ⟨hplaced, hnoted, hflagged⟩

theorem WellFormed.perform (h : journey.WellFormed) (operation : Operation) :
    (journey.perform operation).WellFormed := by
  have hchanges := perform_changes journey operation
  constructor
  · rw [hchanges.form]; exact h.changes hchanges
  · intro flight hflight
    rw [hchanges.form]
    rcases flight_perform hflight with hflight | horigin
    · exact h.flight flight hflight
    · rw [horigin]; exact h.state.view

/-- The journeys of sessions that started with some answers. Between two operations a session can go
over to another controller that served sessions of the same form. -/
inductive AtHome : Journey → Prop
  | start (form : Form) (setting : Setting) (answers : Fields Json) :
    AtHome (.ofSession (.start form setting answers))
  | perform {journey : Journey} (operation : Operation) :
    AtHome journey → AtHome (journey.perform operation)
  | handOver {journey other : Journey} : AtHome journey → AtHome other →
    other.session.form = journey.session.form → AtHome { journey with controller := other.controller }

theorem AtHome.wellFormed (h : journey.AtHome) : journey.WellFormed := by
  induction h with
  | start form setting answers => exact ⟨.initialState form setting answers, fun flight h => by cases h⟩
  | perform operation _ ih => exact ih.perform operation
  | handOver _ _ hform ih ihOther => exact ⟨ih.state, fun flight h => hform ▸ ihOther.flight flight h⟩

theorem AtHome.after (h : journey.AtHome) (operations : List Operation) :
    (journey.after operations).AtHome :=
  List.foldlRecOn operations _ h fun _ hjourney operation _ => hjourney.perform operation

/-- Whatever happens to a session, its state stays well-formed, so no request is refused for being at
a view that does not exist. -/
theorem stays_well_formed (h : journey.AtHome) :
    journey.session.state.WellFormed journey.session.form ∧
      ∀ request view, (journey.begin request).1 ≠ .error (.unknownView view) :=
  ⟨h.wellFormed.state, fun request view => begin_ne_unknownView request view h.wellFormed.state.view⟩

/-- The host refuses an answer that was submitted, and then agrees. -/
theorem stays_well_formed_submit :
    let journey := (ofSession (.start Form.echo {} [])).after
      [.session (.apply (.answer "a" (.str "x"))), .begin ⟨.submit, none⟩,
        .complete 1 (.error (.validation [⟨"a", "taken"⟩, ⟨"", "late"⟩, ⟨"", "late"⟩])),
        .begin ⟨.save, none⟩, .complete 2 (.ok "only")]
    journey.session.state.WellFormed journey.session.form ∧
      (∀ request view, (journey.begin request).1 ≠ .error (.unknownView view)) ∧
      journey.session.state.errors.names = ["a"] := by
  intro journey
  have hhome : journey.AtHome := .after (.start Form.echo {} []) _
  have hwell := stays_well_formed hhome
  exact ⟨hwell.1, hwell.2, by decide +kernel⟩

end Journey
end Formwork
