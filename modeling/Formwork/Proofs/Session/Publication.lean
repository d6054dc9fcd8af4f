import Formwork.Proofs.Session.Edit
import Formwork.Proofs.Session.Reachable

/-!
# What is published

A commit compares whole states, revisions included. Every operation but one commits a draft of the
latest state, with the revision of that, and so publishes if and only if it changes the content. A
reset commits a state made from scratch, under revision 0. So it publishes content that is there
already, unless nothing has been published before (`Journey.publishes_changes`).
-/

namespace Formwork

/-- A store after one publication, which a subscriber to the store before can tell. -/
structure Store.Follows (after before : Store) : Prop where
  published : after.published = before.published + 1
  revision : after.current.revision = before.current.revision + 1
  hasNews : (Subscriber.ofStore before).hasNews after = true

namespace Store

variable {store after before : Store} {next : State}

theorem commit_follows (store : Store) (next : State) :
    store.commit next = store ∨ (store.commit next).Follows store := by
  rcases store.commit_eq next with ⟨hcommit, -⟩ | hcommit
  · exact .inl hcommit
  · rw [hcommit]
    exact .inr ⟨rfl, rfl, by simp [Subscriber.ofStore, Subscriber.hasNews]⟩

/-- A commit does nothing if and only if the state is the latest one, revision included. -/
theorem commit_eq_self_iff (store : Store) (next : State) : store.commit next = store ↔
    next.sameContent store.current = true ∧ next.revision = store.current.revision := by
  rw [← beq_iff_eq (a := next.revision), ← Bool.and_eq_true]
  show _ ↔ (next == store.current) = true
  cases h : next == store.current with
  | true => exact iff_of_true (if_pos h) rfl
  | false =>
    refine iff_of_false (fun hsame => ?_) (by simp)
    rw [commit_of_ne h] at hsame
    exact absurd (congrArg published hsame) (by simp)

theorem commit_of_draft (hrevision : next.revision = store.current.revision) :
    store.commit next = store ∨ (store.commit next).current.sameContent store.current = false := by
  rcases store.commit_eq next with ⟨hcommit, -⟩ | hcommit
  · exact .inl hcommit
  · -- the revisions agree, so the same content would have been the same state
    cases hcontent : next.sameContent store.current with
    | true => exact .inl ((commit_eq_self_iff store next).2 ⟨hcontent, hrevision⟩)
    | false => rw [hcommit]; exact .inr hcontent

end Store

namespace Journey

variable {journey : Journey} {operation : Operation} {session : Session}

/-- An operation commits at most one state: a draft of the latest one, or the state that a reset
makes from scratch. -/
theorem Changes.store (h : journey.Changes operation session) :
    session.store = journey.session.store ∨
    (∃ next, next.revision = journey.session.state.revision ∧
      session.store = journey.session.store.commit next) ∨
    operation = .session (.apply .reset) ∧ session = journey.session.reset.2 := by
  cases h with
  | nothing => exact .inl rfl
  | staged answer value => exact .inl (by rw [Session.stage_eq])
  | settled operation staged hsettles =>
    have hstore : staged.store = journey.session.store := by rw [Session.eq_of_settles hsettles]
    rcases staged.settle_eq with hsettle | hsettle
    · rw [hsettle]; exact .inl hstore
    · rw [hsettle]
      refine .inr (.inl ⟨_, ?_, congrArg (Store.commit · _) hstore⟩)
      exact (Form.updated_sameNotes ..).revision.trans
        (congrArg (fun store => store.current.revision) hstore)
  | reset => exact .inr (.inr ⟨rfl, rfl⟩)
  | noted operation next hnotes => exact .inr (.inl ⟨next, hnotes.sameBase.revision, rfl⟩)

theorem perform_follows (journey : Journey) (operation : Operation) :
    (journey.perform operation).session.store = journey.session.store ∨
      (journey.perform operation).session.store.Follows journey.session.store := by
  rcases (perform_changes journey operation).store with h | ⟨next, -, h⟩ | ⟨-, h⟩
  · exact .inl h
  · rw [h]; exact Store.commit_follows _ _
  · rw [h]; exact Store.commit_follows _ _

/-- Each publication takes the revision up by one, and nothing else does. -/
theorem Reachable.revision_eq (h : journey.Reachable) :
    journey.session.state.revision = journey.session.store.published := by
  induction h with
  | start form setting answers => exact (form.runPass_sameNotes setting _ .full).revision
  | handOver controller _ ih => exact ih
  | @perform journey operation _ ih =>
    rcases perform_follows journey operation with hstore | hfollows
    · rw [Session.state, hstore]; exact ih
    · exact hfollows.revision.trans ((congrArg (· + 1) ih).trans hfollows.published.symm)

/-- An operation leaves the store as it is, or publishes once. Other than a reset, it publishes only
content that differs. A reset publishes even the content that is there, unless the revision is 0. -/
theorem publishes_changes (journey : Journey) (operation : Operation) :
    let before := journey.session.store
    let after := (journey.perform operation).session.store
    (after = before ∨ after.Follows before) ∧
    (operation ≠ .session (.apply .reset) →
      after = before ∨ after.current.sameContent before.current = false) ∧
    (operation = .session (.apply .reset) →
      (after = before ↔ before.current.revision = 0 ∧
        (journey.session.form.initialState journey.session.setting []).1.sameContent before.current = true)) := by
  intro before after
  refine ⟨perform_follows journey operation, fun hnot => ?_, ?_⟩
  · rcases (perform_changes journey operation).store with h | ⟨next, hrevision, h⟩ | ⟨h, -⟩
    · exact .inl h
    · rw [show after = before.commit next from h]
      exact Store.commit_of_draft hrevision
    · exact absurd h hnot
  · rintro rfl
    have hstart : (journey.session.form.initialState journey.session.setting []).1.revision = 0 :=
      (Form.runPass_sameNotes ..).revision
    have hself := before.commit_eq_self_iff
      (journey.session.form.initialState journey.session.setting []).1
    rw [hstart, and_comm, eq_comm (a := 0)] at hself
    exact hself

/-- A reset of a session that has just started publishes nothing. -/
theorem publishes_changes_reset :
    let journey := ofSession (.start Form.echo {} [])
    (journey.perform (.session (.apply .reset))).session.store = journey.session.store := by
  intro journey
  have hreset := (publishes_changes journey (.session (.apply .reset))).2.2 rfl
  exact hreset.2 ⟨by decide +kernel, by decide +kernel⟩

/-- A second reset publishes what the first one has published. -/
theorem second_reset_publishes :
    let journey := (ofSession (.start Form.echo {} [])).after
      [.session (.apply (.answer "a" (.str "x"))), .session (.apply .reset)]
    let next := journey.perform (.session (.apply .reset))
    next.session.state.sameContent journey.session.state = true ∧
      next.session.state.revision = journey.session.state.revision + 1 ∧
      (Subscriber.ofStore journey.session.store).hasNews next.session.store = true := by
  decide +kernel

end Journey
end Formwork
