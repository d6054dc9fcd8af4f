import Formwork.Proofs.Session.Reachable

/-!
# Answers that cannot be edited

An answer is staged only if it can be edited, and written only when it is settled. In between nothing
locks it: what makes an item read-only is a pass, and a settlement or a reset drops what is staged
(`Journey.Reachable.isOpen`). So no settlement writes over an answer that is locked; only the rules of
its own pass do.
-/

namespace Formwork

open Form (Item)

namespace Session

variable {session staged : Session} {operation : Session.Operation} {item : Item} {answer : String}

/-- The report of the pass that an operation runs. -/
def report? (session : Session) : Operation → Option Report
  | .settle => some session.settle.1
  | .apply update => some (session.apply update).1
  | .stage .. | .validate _ | .mergeHostErrors _ | .resumeAt .. => none

theorem report?_of_settles (h : session.settles? operation = some staged) :
    session.report? operation = some staged.settle.1 := by
  cases operation with
  | settle => cases h; rfl
  | apply update => cases update <;> cases h <;> rfl
  | stage | validate | mergeHostErrors | resumeAt => cases h

/-- What is staged can be edited. -/
def IsOpen (session : Session) : Prop :=
  ∀ answer, session.staged.has answer = true → session.isLocked answer = false

theorem isLocked_eq (hitem : item ∈ session.form.items) (hanswer : item.answer? = some answer) :
    session.isLocked answer = session.state.isReadOnly item.id := by
  rw [isLocked, Form.itemOf?_eq_some_iff.2 ⟨hitem, hanswer⟩]
  rfl

namespace IsOpen

theorem of_empty (h : session.staged = .empty) : session.IsOpen := by
  intro answer hanswer
  rw [h] at hanswer; cases hanswer

theorem stage (h : session.IsOpen) (answer : String) (value : Json) :
    (session.stage answer value).IsOpen := by
  rw [Session.stage]
  split
  · exact h
  · rename_i hlocked
    intro other hother
    rcases (NameMap.has_insert _ _ _ _).1 hother with rfl | hother
    · exact Bool.eq_false_iff.2 hlocked
    · exact h other hother

theorem of_settles (h : session.IsOpen) (hsettles : session.settles? operation = some staged) :
    staged.IsOpen :=
  settles_induction (fun _ answer value hopen => hopen.stage answer value) h hsettles

end IsOpen

theorem staged_settle (session : Session) : session.settle.2.staged = .empty := by
  rcases session.settle_eq with h | h
  · rw [h]
  · rw [h]; rfl

theorem has_of_mem_pending (h : answer ∈ Fields.names session.pending) : session.staged.has answer = true := by
  obtain ⟨⟨name, value⟩, hfield, rfl⟩ := List.mem_map.1 h
  exact NameMap.has_iff.2 ⟨value, NameMap.mem_entries.1 (List.mem_filter.1 hfield).1⟩

theorem value?_commit {next : State} (h : next.value? answer = session.state.value? answer) :
    (session.commit next).state.value? answer = session.state.value? answer := by
  rcases session.state_commit next with ⟨hstate, -⟩ | hstate
  · rw [hstate]
  · rw [hstate]; exact h

/-- A settlement writes an answer that is locked only where its pass does. -/
theorem value?_settle (hopen : session.IsOpen) (hlocked : session.isLocked answer = true) :
    session.settle.2.state.value? answer = session.state.value? answer ∨
      answer ∈ session.settle.1.changedAnswers := by
  rcases session.settle_eq with h | h
  · rw [h]; exact .inl rfl
  · rw [h]
    refine or_iff_not_imp_right.2 fun hlisted => ?_
    -- what is pending was staged, so it is open and cannot be this answer
    have hpending : answer ∉ Fields.names session.pending := fun hmem => by
      rw [hopen answer (has_of_mem_pending hmem)] at hlocked; cases hlocked
    show (commit { session with staged := .empty } _).state.value? answer = _
    refine value?_commit ?_
    rw [Form.updated, Form.value?_of_notMem_changedAnswers hlisted]
    exact Fields.get?_setAll_of_notMem hpending

end Session

namespace Journey

variable {journey : Journey} {operation : Operation} {session : Session} {item : Item} {answer : String}

/-- The report of the pass that an operation runs. -/
def report? (journey : Journey) : Operation → Option Report
  | .session operation => journey.session.report? operation
  | .begin _ | .complete .. | .cancel => none

theorem Changes.isOpen (hopen : journey.session.IsOpen) (h : journey.Changes operation session) :
    session.IsOpen := by
  cases h with
  | nothing => exact hopen
  | staged answer value => exact hopen.stage answer value
  -- a pass can lock what it likes, as nothing is staged any more
  | settled operation staged hsettles => exact .of_empty staged.staged_settle
  | reset => exact .of_empty rfl
  -- a note leaves the staged answers where they are, but locks nothing
  | noted operation next hnotes =>
    intro answer hstaged
    have hlocked := hopen answer hstaged
    have hreadOnly : (journey.session.commit next).state.readOnly = journey.session.state.readOnly := by
      rcases journey.session.state_commit next with ⟨hstate, -⟩ | hstate
      · rw [hstate]
      · rw [hstate]; exact hnotes.sameBase.readOnly
    rw [Session.isLocked] at hlocked ⊢
    simp only [State.isReadOnly, hreadOnly] at hlocked ⊢
    exact hlocked

theorem Reachable.isOpen (h : journey.Reachable) : journey.session.IsOpen := by
  induction h with
  | start form setting answers => exact .of_empty rfl
  | perform operation _ ih => exact (perform_changes _ operation).isOpen ih
  | handOver controller _ ih => exact ih

/-- Apart from a reset, an operation writes an answer that is locked only where its pass does. -/
theorem Changes.value? (hopen : journey.session.IsOpen) (hlocked : journey.session.isLocked answer = true)
    (hreset : operation ≠ .session (.apply .reset)) (h : journey.Changes operation session) :
    session.state.value? answer = journey.session.state.value? answer ∨
      ∃ report, journey.report? operation = some report ∧ answer ∈ report.changedAnswers := by
  cases h with
  | nothing => exact .inl rfl
  | staged other value => rw [Session.stage_eq]; exact .inl rfl
  | settled operation staged hsettles =>
    have hstaged := Session.eq_of_settles hsettles
    have hstate : staged.state = journey.session.state := by rw [hstaged]; rfl
    have hstill : staged.isLocked answer = true := by rw [hstaged]; exact hlocked
    rw [← hstate]
    exact (Session.value?_settle (hopen.of_settles hsettles) hstill).imp_right fun hlisted =>
      ⟨_, Session.report?_of_settles hsettles, hlisted⟩
  | reset => exact absurd rfl hreset
  | noted operation next hnotes =>
    refine .inl (Session.value?_commit ?_)
    rw [State.value?, hnotes.sameBase.values, State.value?]

/-- Whatever happens to a session, apart from a reset: the answer of an item that is read-only stays
as it is unless the pass that an operation runs lists it, and no answer that is staged belongs to an
item that is read-only. -/
theorem locked_answers_stay (h : journey.Reachable) :
    (∀ operation, operation ≠ .session (.apply .reset) →
      ∀ item ∈ journey.session.form.items, journey.session.state.isReadOnly item.id = true →
      ∀ answer, item.answer? = some answer →
        (journey.perform operation).session.state.value? answer = journey.session.state.value? answer ∨
        ∃ report, journey.report? operation = some report ∧ answer ∈ report.changedAnswers) ∧
    ∀ answer, journey.session.staged.has answer = true →
      ∀ item ∈ journey.session.form.items, item.answer? = some answer →
        journey.session.state.isReadOnly item.id = false := by
  refine ⟨fun operation hreset item hitem hreadOnly answer hanswer => ?_,
    fun answer hstaged item hitem hanswer => ?_⟩
  · exact (perform_changes journey operation).value? h.isOpen
      (Session.isLocked_eq hitem hanswer ▸ hreadOnly) hreset
  · rw [← Session.isLocked_eq hitem hanswer]
    exact h.isOpen answer hstaged

/-! ### A form to try -/

/-- The badge repeats the name, and cannot be edited where there is one. -/
def badgeDefinition : Definition where
  id := "badge"
  title := "Badge"
  version := "1"
  views := [{ id := "only", items := [
    { id := "name", kind := .text },
    { id := "badge", kind := .text, readOnly := some ⟨"data.name", ["name"]⟩,
      value := some ⟨"data.name", ["name"]⟩ }] }]

/-- The form of `badgeDefinition`, with its rules parsed. -/
def badgeForm : Form where
  definition := badgeDefinition
  sound := by decide
  views := [⟨0, badgeDefinition.views[0], none, none, [
    ⟨0, 0, badgeDefinition.items[0], none, none, none, none, [], [], none⟩,
    ⟨1, 0, badgeDefinition.items[1], none,
      some ⟨⟨"data.name", .ok (.path .data [.field "name"])⟩, ["name"]⟩,
      some ⟨⟨"data.name", .ok (.path .data [.field "name"])⟩, ["name"]⟩, none, [], [], none⟩]⟩]
  views_eq := by
    have hname : (Token.scan "data.name").toOption =
        some [⟨.ident "data", 0⟩, ⟨.dot, 4⟩, ⟨.ident "name", 5⟩] := by decide +kernel
    rw [← Expression.parse_field hname]; rfl
  items := _
  items_eq := rfl
  index := _
  index_eq := rfl

/-- A badge is staged, but when the name is known, it is the name. From then on an edit of the badge is
dropped, and an edit of the name is one of the badge. -/
theorem locked_answers_stay_badge :
    let journey := (ofSession (.start badgeForm {} [])).after
      [.session (.stage "badge" (.str "early")), .session (.apply (.answer "name" (.str "Ann")))]
    (journey.perform (.session (.apply (.answer "badge" (.str "late"))))).session.state.value? "badge" =
      journey.session.state.value? "badge" ∧
    (∃ report, journey.report? (.session (.apply (.answer "name" (.str "Bob")))) = some report ∧
      "badge" ∈ report.changedAnswers) ∧
    journey.session.staged.has "badge" = false := by
  intro journey
  have hreachable : journey.Reachable := .after (.start badgeForm {} []) _
  obtain ⟨hstay, hstaged⟩ := locked_answers_stay hreachable
  have hitem : badgeForm.items.get ⟨1, by decide⟩ ∈ journey.session.form.items := by
    rw [show journey.session.form = badgeForm from form_after _ _]
    exact List.get_mem _ _
  have hlocked : journey.session.state.isReadOnly "badge" = true := by decide +kernel
  refine ⟨?_, ?_, ?_⟩
  · refine (hstay _ (by simp) _ hitem hlocked "badge" rfl).resolve_right ?_
    rintro ⟨report, hreport, hlisted⟩
    obtain rfl := Option.some.inj hreport
    revert hlisted
    decide +kernel
  · refine (hstay _ (by simp) _ hitem hlocked "badge" rfl).resolve_left fun hsame => ?_
    have hdiffers : ((journey.perform (.session (.apply (.answer "name" (.str "Bob"))))).session.state.value?
        "badge" == journey.session.state.value? "badge") = false := by decide +kernel
    rw [hsame] at hdiffers
    revert hdiffers
    decide +kernel
  · rw [Bool.eq_false_iff]
    intro hhas
    exact Bool.noConfusion (hlocked.symm.trans (hstaged "badge" hhas _ hitem rfl))

end Journey
end Formwork
