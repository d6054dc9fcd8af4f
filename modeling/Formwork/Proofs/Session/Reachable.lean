import Formwork.Proofs.Session.Change

/-!
# Where a session can get

Whatever is done to a session, it stays at a view of its form, and its messages are about items of the
form (`State.BelongsTo`, `Journey.Reachable.isPlaced`). What holds of the latest state, of the drafts
that operations commit and of the state that a form starts in, holds of the state after an operation
(`Journey.Changes.state`).
-/

namespace Formwork

theorem NameMap.eq_of_beq {α : Type} [BEq α] [LawfulBEq α] {a b : NameMap α} (h : (a == b) = true) :
    a = b := by
  obtain ⟨entries, ascending⟩ := a
  obtain ⟨others, ascending'⟩ := b
  obtain rfl : entries = others := LawfulBEq.eq_of_beq h
  rfl

theorem Form.isSome_view? {form : Form} {view : Form.View} (h : view ∈ form.views) :
    (form.view? view.id).isSome = true := by
  rw [view?, List.find?_isSome]
  exact ⟨view, h, beq_self_eq_true _⟩

theorem Form.mem_items_of_covers {form : Form} {scope : Scope} {item : Item}
    (h : item ∈ (form.views.filter scope.covers).flatMap (·.items)) : item ∈ form.items := by
  obtain ⟨view, hview, hitem⟩ := List.mem_flatMap.1 h
  exact mem_items_iff.2 ⟨view, (List.mem_filter.1 hview).1, hitem⟩

/-! ### Commits -/

/-- A commit publishes a state under the next revision, unless it is the latest one already. -/
theorem Store.commit_eq (store : Store) (next : State) :
    (store.commit next = store ∧ next.sameContent store.current = true) ∨
    store.commit next =
      { current := { next with revision := store.current.revision + 1 }
        published := store.published + 1 } := by
  rw [commit]
  split
  · rename_i hsame
    exact .inl ⟨rfl, (Bool.and_eq_true_iff.1 hsame).1⟩
  · exact .inr rfl

namespace Session

variable {session : Session} {next : State}

theorem state_commit (session : Session) (next : State) :
    ((session.commit next).state = session.state ∧ next.sameContent session.state = true) ∨
      (session.commit next).state = { next with revision := session.state.revision + 1 } := by
  rcases session.store.commit_eq next with ⟨hcommit, hsame⟩ | hcommit
  · exact .inl ⟨congrArg Store.current hcommit, hsame⟩
  · exact .inr (congrArg Store.current hcommit)

theorem errors_commit (session : Session) (next : State) :
    (session.commit next).state.errors = next.errors := by
  rcases session.state_commit next with ⟨hstate, hsame⟩ | hstate
  · rw [hstate]
    simp only [State.sameContent, Bool.and_eq_true] at hsame
    exact (NameMap.eq_of_beq hsame.1.1.1.1.2).symm
  · rw [hstate]

/-- A commit of the latest state with other messages leaves all else as it was, but for the revision. -/
theorem state_commit_of_messages
    (hnext : next = { session.state with errors := next.errors, formErrors := next.formErrors }) :
    (session.commit next).state =
      { session.state with
        errors := next.errors
        formErrors := next.formErrors
        revision := (session.commit next).state.revision } := by
  rcases session.state_commit next with ⟨hstate, hsame⟩ | hstate
  · simp only [State.sameContent, Bool.and_eq_true] at hsame
    have herrors : next.errors = session.state.errors := NameMap.eq_of_beq hsame.1.1.1.1.2
    have hform : next.formErrors = session.state.formErrors := LawfulBEq.eq_of_beq hsame.1.1.1.2
    rw [hstate, herrors, hform]
  · rw [hstate]
    conv_lhs => rw [hnext]

end Session

/-! ### States that belong to a form -/

/-- A state is at a view of a form, and its messages are about items of the form. -/
structure State.BelongsTo (state : State) (form : Form) : Prop where
  view : (form.view? state.currentView).isSome = true
  errors : ∀ name, state.errors.has name = true → ∃ item ∈ form.items, item.id = name

namespace State.BelongsTo

variable {form : Form} {state next : State} {setting : Setting}

theorem congr (h : state.BelongsTo form) (hview : next.currentView = state.currentView)
    (herrors : next.errors = state.errors) : next.BelongsTo form :=
  ⟨by rw [hview]; exact h.view, by rw [herrors]; exact h.errors⟩

theorem runPass (h : state.BelongsTo form) (setting : Setting) (trigger : Trigger) :
    (form.runPass setting state trigger).1.BelongsTo form := by
  have haside := (Form.runPass_writes form setting state trigger).1.aside
  exact h.congr (congrArg State.currentView haside :) (congrArg State.errors haside :)

theorem initialState (form : Form) (setting : Setting) (answers : Fields Json) :
    (form.initialState setting answers).1.BelongsTo form := by
  refine runPass ⟨?_, fun name h => ?_⟩ setting .full
  · exact Form.isSome_view? (List.head_mem _)
  · simp [Form.blankState] at h

theorem replaceErrors {item : Form.Item} (h : state.BelongsTo form) (hitem : item ∈ form.items)
    (messages : List String) : (state.replaceErrors item.id messages).BelongsTo form := by
  refine ⟨h.view, fun name hname => ?_⟩
  simp only [State.replaceErrors] at hname
  split at hname
  · exact h.errors name (NameMap.has_erase _ _ _ |>.1 hname).2
  · rcases (NameMap.has_insert _ _ _ _).1 hname with rfl | hname
    · exact ⟨item, hitem, rfl⟩
    · exact h.errors name hname

theorem replaceMessages (h : state.BelongsTo form) (scope : Scope) (messages : Messages) :
    (form.replaceMessages state scope messages).BelongsTo form := by
  rw [Form.replaceMessages]
  exact List.foldlRecOn (motive := fun state : State => state.BelongsTo form) _ _ h
    fun state hstate item hitem => hstate.replaceErrors (Form.mem_items_of_covers hitem) _

end State.BelongsTo

/-! ### Sessions -/

namespace Journey

variable {journey : Journey} {operation : Operation} {session : Session} {next : State}

/-- What the latest state has, and every state that an operation can commit, the state has after the
operation. -/
theorem Changes.state {P : State → Prop} (h : journey.Changes operation session)
    (hstate : P journey.session.state)
    (hupdated : ∀ changes,
      P (journey.session.form.updated journey.session.setting journey.session.state changes))
    (hanew : P (journey.session.form.initialState journey.session.setting []).1)
    (hnotes : ∀ next, journey.Notes next → P next)
    (hrevision : ∀ next revision, P next → P { next with revision }) : P session.state := by
  have hcommit : ∀ (session : Session) (next : State), P session.state → P next →
      P (session.commit next).state := by
    intro session next hsession hnext
    rcases session.state_commit next with ⟨hsame, -⟩ | hpublished
    · rw [hsame]; exact hsession
    · rw [hpublished]; exact hrevision next _ hnext
  cases h with
  | nothing => exact hstate
  | staged answer value => rw [Session.stage_eq]; exact hstate
  | settled operation staged hsettles =>
    obtain ⟨answers, rfl⟩ : ∃ answers, staged = { journey.session with staged := answers } :=
      ⟨_, Session.eq_of_settles hsettles⟩
    rcases Session.settle_eq { journey.session with staged := answers } with hsettle | hsettle
    · rw [hsettle]; exact hstate
    · rw [hsettle]; exact hcommit { journey.session with staged := .empty } _ hstate (hupdated _)
  | reset => exact hcommit { journey.session with staged := .empty } _ hstate hanew
  | noted operation next hnext => exact hcommit journey.session next hstate (hnotes next hnext)

end Journey

namespace Session

variable {session : Session}

/-- The state of a session belongs to its form. -/
def IsPlaced (session : Session) : Prop := session.state.BelongsTo session.form

theorem mem_items_of_itemOfField? {field : String} {item : Form.Item}
    (h : session.itemOfField? field = some item) : item ∈ session.form.items := by
  rw [itemOfField?, Option.orElse_eq_some] at h
  rcases h with h | ⟨-, h⟩
  · exact List.mem_of_find?_eq_some h
  · exact List.mem_of_find?_eq_some h

theorem IsPlaced.told (h : session.IsPlaced) (fields : List FieldError) :
    (session.told fields).BelongsTo session.form := by
  refine List.foldlRecOn (motive := fun state : State => state.BelongsTo session.form) fields _ h
    fun state hstate error _ => ?_
  rw [tell]
  split
  · rename_i item hitem
    exact hstate.replaceErrors (mem_items_of_itemOfField? hitem) _
  · exact hstate.congr rfl rfl

end Session

namespace Journey

variable {journey : Journey} {operation : Operation} {session : Session} {next : State}

theorem Notes.belongsTo (h : journey.Notes next) (hplaced : journey.session.IsPlaced) :
    next.BelongsTo journey.session.form := by
  cases h with
  | validated scope => exact hplaced.replaceMessages scope _
  | told fields => exact hplaced.told fields
  | resumed view completed hview => exact ⟨hview, hplaced.errors⟩
  | arrived flight view hflight hview => exact ⟨hview, hplaced.errors⟩

theorem Changes.isPlaced (h : journey.Changes operation session) (hplaced : journey.session.IsPlaced) :
    session.IsPlaced := by
  rw [Session.IsPlaced, h.form]
  refine h.state hplaced (fun changes => ?_) (.initialState ..) (fun next hnext => hnext.belongsTo hplaced)
    fun next revision hnext => hnext.congr rfl rfl
  exact .congr hplaced (Form.updated_sameNotes ..).currentView (Form.updated_sameNotes ..).errors

/-- Whatever happens, the state of a session belongs to its form. -/
theorem Reachable.isPlaced (h : journey.Reachable) : journey.session.IsPlaced := by
  induction h with
  | start form setting answers => exact .initialState form setting answers
  | perform operation _ ih => exact (perform_changes _ operation).isPlaced ih
  | handOver controller _ ih => exact ih

end Journey
end Formwork
