import Formwork.Proofs.Pass.Settled
import Formwork.Session.Basic

/-!
# A session is reopened from its answers

The answers of a session that has just started are settled, so a session that starts with these answers
is like it (`Session.reopens_as_settled`). The answers that a form starts with do not get in the way: a
pass takes no name away, so each has a value among the answers that are given.
-/

namespace Formwork

namespace Form

variable {form : Form} {setting : Setting} {answers : Fields Json} {name : String}

/-- The answers that a form starts with are put before any that are given. -/
theorem initialValues_eq (form : Form) (answers : Fields Json) :
    form.initialValues answers = Fields.setAll (form.initialValues []) answers := rfl

theorem nodup_names_initialValues (h : (Fields.names form.definition.initialValues).Nodup) :
    (Fields.names (form.initialValues answers)).Nodup := by
  refine Fields.setAll_induction (P := fun values => (Fields.names values).Nodup) ?_
    fun _ _ _ hvalues => Fields.nodup_names_set hvalues
  refine List.foldlRecOn (motive := fun values : Fields Json => (Fields.names values).Nodup) form.items _ h
    fun values hvalues item _ => ?_
  split
  · split
    · exact hvalues
    · exact Fields.nodup_names_set hvalues
  · exact hvalues

/-- The first state of a session goes on from a settled one with the same answers. -/
theorem resumes_blankState (setting : Setting) (hsingle : form.Single)
    (hinitial : (Fields.names form.definition.initialValues).Nodup) (answers : Fields Json) :
    form.Resumes setting (form.blankState answers)
      (form.blankState (form.runPass setting (form.blankState answers) .full).1.values) := by
  refine ⟨fun name => ?_, .inl rfl, .inl rfl, .inl rfl⟩
  let once := (form.runPass setting (form.blankState answers) .full).1
  have hnodup : (Fields.names once.values).Nodup :=
    values_induction (P := fun values => (Fields.names values).Nodup) hsingle setting .full
      (nodup_names_initialValues hinitial) fun _ _ _ hvalues => Fields.nodup_names_set hvalues
  show Fields.get? (form.initialValues once.values) name = Fields.get? once.values name
  rw [initialValues_eq, Fields.get?_setAll hnodup]
  cases hbase : Fields.get? (form.initialValues []) name with
  | none => rw [Option.or_none]
  | some value =>
    -- the name has a value from the start, and no pass takes it away
    have hstart : (Fields.get? (form.initialValues answers) name).isSome = true := by
      rw [initialValues_eq]
      refine Fields.setAll_induction (P := fun values => (Fields.get? values name).isSome = true) ?_
        fun _ _ _ hvalues => Fields.isSome_get?_set hvalues
      rw [hbase]; rfl
    have hsome : (Fields.get? once.values name).isSome = true :=
      values_induction (P := fun values => (Fields.get? values name).isSome = true) hsingle setting .full
        hstart fun _ _ _ hvalues => Fields.isSome_get?_set hvalues
    obtain ⟨found, hfound⟩ := Option.isSome_iff_exists.1 hsome
    rw [hfound, Option.some_or]

end Form

namespace Session

/-- A start settles a form, in any cycles, if its rules are local and no item has rules of both kinds
for its answer. A second pass over all rules ends in the state that the first one has ended in, and it
writes no answer, as no object that rules read names a field twice. So a session that starts with the
answers of one that has just started has the same answers, flags and choices. -/
theorem reopens_as_settled (form : Form) (setting : Setting)
    (hlocal : ∀ item ∈ form.items, ∀ rule ∈ item.derivedRules, rule.IsLocal setting)
    (hsingle : ∀ item ∈ form.items, ¬ (item.value.isSome = true ∧ item.hasChoiceRules = true)) :
    (∀ state,
      let once := form.runPass setting state .full
      let twice := form.runPass setting once.1 .full
      twice.1 = once.1 ∧ (Context.Distinct ⟨state.values, setting.user, setting.task⟩ →
        twice.2.changedAnswers = [])) ∧
    ((Fields.names form.definition.initialValues).Nodup → ∀ answers,
      let first := start form setting answers
      let again := start form setting first.state.values
      (∀ answer, again.state.value? answer = first.state.value? answer) ∧
        again.state.visibility = first.state.visibility ∧ again.state.readOnly = first.state.readOnly ∧
        again.state.choices = first.state.choices) := by
  have hone : form.Single := by
    intro item hitem
    rcases Bool.eq_false_or_eq_true item.hasChoiceRules with h | h
    · exact .inl (Option.not_isSome_iff_eq_none.1 fun hvalue => hsingle item hitem ⟨hvalue, h⟩)
    · exact .inr h
  refine ⟨?_, ?_⟩
  · intro state once twice
    refine ⟨Form.runPass_again hlocal hone state, fun hstate => ?_⟩
    exact Form.changedAnswers_again hstate.user hstate.task hone hlocal hstate.data
  · intro hinitial answers first again
    have h := Form.resumes_blankState setting hone hinitial answers
    refine ⟨fun answer => ?_, h.visibility_again hlocal hone, h.readOnly_again hlocal hone,
      h.choices_again hlocal hone⟩
    exact h.agree_again hlocal hone [answer] answer (List.mem_singleton_self answer)

/-- With an answer to `a`, a start gives `b` one and shows `c`, and so does one that is given both. -/
theorem reopens_as_settled_echo :
    let first := start Form.echo {} [("a", .str "x")]
    first.state.visibility.get? "c" = some true ∧
    (Form.echo.runPass {} first.state .full).2.changedAnswers = [] ∧
    (start Form.echo {} first.state.values).state.visibility = first.state.visibility := by
  obtain ⟨htwice, hagain⟩ := reopens_as_settled Form.echo {} Form.echo_isLocal (by decide +kernel)
  have hdistinct : Context.Distinct ⟨(Form.echo.blankState [("a", .str "x")]).values, .null, .null⟩ :=
    ⟨⟨by decide +kernel, trivial, trivial⟩, trivial, trivial⟩
  refine ⟨by decide +kernel, ?_, ?_⟩
  · exact (htwice (Form.echo.blankState [("a", .str "x")])).2 hdistinct
  · exact (hagain List.nodup_nil [("a", .str "x")]).2.1

end Session
end Formwork
