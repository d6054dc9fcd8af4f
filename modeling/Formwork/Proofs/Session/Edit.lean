import Formwork.Proofs.Json.Same
import Formwork.Proofs.Pass.Edit
import Formwork.Session.Basic

/-!
# Edits stand

The pass that an edit makes does not write the edited answer unless another edit asks for it
(`Form.exists_other_edit`). So the edit of one answer in a session is in the state that is published.
-/

namespace Formwork

/-- States with different values of an answer differ. -/
theorem State.beq_eq_false {next current : State} {answer : String} {value : Json}
    (hdistinct : value.Distinct) (hnext : next.value? answer = some value)
    (hcurrent : ((current.value? answer).getD .null == value) = false) : (next == current) = false := by
  by_contra h
  have hcontent : next.sameContent current = true :=
    (Bool.and_eq_true_iff.1 (Bool.eq_true_of_not_eq_false h)).1
  simp only [State.sameContent, Bool.and_eq_true, Json.sameObject] at hcontent
  have hvalues : Json.sameFields next.values current.values = true := hcontent.1.1.1.1.1.1.1.2
  obtain ⟨other, hother, hsame⟩ := Json.sameFields_iff.1 hvalues answer value (Fields.mem_of_lookup hnext)
  rw [State.value?, Fields.get?, hother] at hcurrent
  have : (other == value) = true := Json.same_symm hdistinct hsame
  rw [Option.getD_some, this] at hcurrent; cases hcurrent

theorem Store.commit_of_ne {store : Store} {next : State} (h : (next == store.current) = false) :
    store.commit next =
      { current := { next with revision := store.current.revision + 1 }
        published := store.published + 1 } := by
  rw [Store.commit, h]; rfl

namespace Session

variable {session : Session} {answer : String} {value : Json}

/-- The state after the edit of an answer, before it is committed. -/
def draft (session : Session) (answer : String) (value : Json) : State :=
  (session.form.runPass session.setting (session.state.setValue answer value) (.changed [answer])).1

/-- Where nothing is staged, an edit that changes an answer runs one pass and commits its state. -/
theorem setAnswer_eq (hstaged : session.staged = .empty) (hlocked : session.isLocked answer = false)
    (hnew : ((session.state.value? answer).getD .null == value) = false) :
    (session.setAnswer answer value).2 = session.commit (session.draft answer value) := by
  obtain ⟨form, setting, store, staged⟩ := session
  subst hstaged
  have hstage : stage ⟨form, setting, store, .empty⟩ answer value =
      ⟨form, setting, store, NameMap.empty.insert answer value⟩ := by
    rw [stage, if_neg (by simp [hlocked])]
  have hpending : pending ⟨form, setting, store, NameMap.empty.insert answer value⟩ = [(answer, value)] :=
    List.filter_cons_of_pos (Bool.not_eq_true' _ ▸ hnew)
  rw [setAnswer, hstage, settle, hpending]
  rfl

end Session

/-- A pass does not write over the edit that makes it. Where it writes an edited answer, the item of
the answer is in no cycle and is affected by another edited answer. So where nothing is staged, the
edit of an answer that is not locked is published once, and stands. -/
theorem edit_stands :
    (∀ (form : Form) (setting : Setting) (state : State) (edited : List String), ∀ answer ∈ edited,
      answer ∈ (form.runPass setting state (.changed edited)).2.changedAnswers →
      ∃ item ∈ form.items, item.answer? = some answer ∧
        (∀ cycle ∈ (form.runPass setting state (.changed edited)).2.cycles, item.id ∉ cycle) ∧
        ∃ id ∈ edited, id ≠ answer ∧ item.index ∈ form.affected [id]) ∧
    ∀ (session : Session) (answer : String) (value : Json), session.staged = .empty →
      session.isLocked answer = false → value.Distinct →
      ((session.state.value? answer).getD .null == value) = false →
      (session.setAnswer answer value).2.store.published = session.store.published + 1 ∧
      (session.setAnswer answer value).2.state.value? answer = some value := by
  refine ⟨fun form setting state edited answer _ h => ?_,
    fun session answer value hstaged hlocked hdistinct hnew => ?_⟩
  · obtain ⟨item, hitem, hanswer, hfree, hother⟩ := Form.exists_other_edit h
    exact ⟨item, hitem, hanswer, (Form.freezes_eq_false_iff hitem).1 hfree, hother⟩
  · have hdraft : (session.draft answer value).value? answer = some value := by
      rw [Session.draft, Form.value?_of_notMem_changedAnswers Form.notMem_changedAnswers_of_edit,
        State.value?, State.setValue, Fields.get?_set, if_pos rfl]
    rw [Session.setAnswer_eq hstaged hlocked hnew, Session.commit, Session.state,
      Store.commit_of_ne (State.beq_eq_false hdistinct hdraft hnew)]
    exact ⟨rfl, hdraft⟩

/-- Where `a` and `b` are edited at once, `b` is written over, as the edit of `a` asks. Where `a` is
edited alone, it stands. -/
theorem edit_stands_echo :
    (∃ item ∈ Form.echo.items, item.answer? = some "b" ∧
      (∀ cycle ∈ (Form.echo.runPass {} Form.echoState (.changed ["a", "b"])).2.cycles, item.id ∉ cycle) ∧
      ∃ id ∈ ["a", "b"], id ≠ "b" ∧ item.index ∈ Form.echo.affected [id]) ∧
    let session : Session := { form := Form.echo, setting := {}, store := { current := Form.echoState } }
    (session.setAnswer "a" (.str "y")).2.store.published = 1 ∧
      (session.setAnswer "a" (.str "y")).2.state.value? "a" = some (.str "y") := by
  refine ⟨edit_stands.1 Form.echo {} Form.echoState ["a", "b"] "b" (by decide) (by decide +kernel), ?_⟩
  exact edit_stands.2 { form := Form.echo, setting := {}, store := { current := Form.echoState } } "a"
    (.str "y") rfl (by decide +kernel) trivial (by decide +kernel)

end Formwork
