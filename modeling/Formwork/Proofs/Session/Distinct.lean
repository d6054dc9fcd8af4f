import Formwork.Proofs.Pass.Distinct
import Formwork.Proofs.Session.Reachable
import Formwork.Proofs.State.Coding

/-!
# Sessions without repeated names

No object that is read names a field twice (`Definition.yields_distinct`). Where that is so of the form, the
setting and all that is given to a session, it stays so (`Journey.ReachableDistinctly.distinct`). Then
a state is equal to itself, and to commit it once more does nothing (`Session.Distinct.commit_state`).
-/

namespace Formwork

/-! ### Definitions -/

namespace Definition

open Decoder

/-- No object in the values of an item names a field twice. -/
structure Item.Distinct (item : Item) : Prop where
  defaultValue : ∀ value ∈ item.defaultValue, value.Distinct
  options : ∀ choice ∈ item.options, choice.value.Distinct

/-- No object in the values of a definition names a field twice. -/
structure Distinct (definition : Definition) : Prop where
  initialValues : (Json.obj definition.initialValues).Distinct
  items : ∀ item ∈ definition.items, item.Distinct

/-- A definition that gives no values names no field twice. -/
theorem Distinct.of_plain {definition : Definition} (hinitial : definition.initialValues = [])
    (hitems : ∀ item ∈ definition.items, item.defaultValue = none ∧ item.options = []) :
    definition.Distinct := by
  refine ⟨?_, fun item hitem => ?_⟩
  · rw [hinitial]
    exact ⟨List.nodup_nil, trivial⟩
  · obtain ⟨hdefault, hoptions⟩ := hitems item hitem
    constructor
    · rw [hdefault]; exact nofun
    · rw [hoptions]; exact nofun

theorem yields_listed {α : Type} {decode : Decoder α} {P : α → Prop} {name : String} (h : decode.Yields P) :
    (withDefault name (list decode) []).Yields fun values => ∀ value ∈ values, P value :=
  .field (yields_list h) fun _ heq => by cases heq; exact nofun

theorem Choice.yields_distinct : decode.Yields fun choice => choice.value.Distinct :=
  yields_record <| .skip <| .skip <| .skip <| .ap (.pure fun _ hvalue _ _ _ => hvalue) (.field yields_json nofun)

theorem Item.yields_distinct : decode.Yields Item.Distinct :=
  yields_record <| .skip <| .skip <| .skip <| .ap (.skip <| .skip <| .skip <| .skip <| .skip <|
      .ap (.skip <| .skip <| .skip <| .skip <| .pure fun _ _ _ _ _ hdefault _ _ _ _ _ _ hoptions _ _ _ =>
          ⟨fun value hvalue => (hdefault value hvalue).1, hoptions⟩)
        (.field yields_optional_json fun _ heq => by cases heq; exact nofun))
      (yields_listed Choice.yields_distinct)

theorem View.yields_distinct : decode.Yields fun view => ∀ item ∈ view.items, item.Distinct :=
  yields_record <| .ap (Q := fun items => ∀ item ∈ items, item.Distinct)
    (.skip <| .skip <| .skip <| .skip <| .skip <| .pure fun _ _ _ _ _ _ hitems => hitems)
    (yields_listed Item.yields_distinct)

/-- In a definition that is read no object names a field twice. -/
theorem yields_distinct : decode.Yields Distinct :=
  yields_record <| .ap (.ap (.skip <| .skip <| .skip <| .skip <| .skip <| .pure
    fun _ _ _ _ _ _ hinitial _ hviews => ⟨hinitial, fun item hitem => by
      obtain ⟨view, hview, hitem⟩ := List.mem_flatMap.1 hitem
      exact hviews view hview item hitem⟩)
    (.field yields_object fun _ heq => by cases heq; exact ⟨List.nodup_nil, trivial⟩))
    (.field (yields_list View.yields_distinct) nofun)

end Definition

/-! ### States -/

theorem Offer.beq_self {offer : Offer} (h : offer.value.Distinct) : (offer == offer) = true := by
  show (offer.value.same offer.value && offer.label == offer.label && offer.disabled == offer.disabled &&
    offer.visible == offer.visible) = true
  simp only [Json.same_self h, beq_self_eq_true, Bool.and_self]

theorem NameMap.beq_self {α : Type} [BEq α] [ReflBEq α] (map : NameMap α) : (map == map) = true :=
  ReflBEq.rfl (a := map.entries)

theorem beq_self_of_mem {α : Type} [BEq α] {list : List α} (h : ∀ a ∈ list, (a == a) = true) :
    (list == list) = true := by
  induction list with
  | nil => rfl
  | cons a list ih =>
    obtain ⟨ha, hlist⟩ := List.forall_mem_cons.1 h
    rw [List.cons_beq_cons, ha, ih hlist, Bool.and_self]

namespace State.Distinct

variable {state next : State}

/-- A state in which no object names a field twice is equal to itself. -/
theorem beq_self (h : state.Distinct) : (state == state) = true := by
  have hchoices : (state.choices == state.choices) = true := by
    show (state.choices.entries == state.choices.entries) = true
    refine beq_self_of_mem fun entry hentry => ?_
    have hoffers := beq_self_of_mem fun offer hoffer =>
      Offer.beq_self (h.offers entry.1 entry.2 hentry offer hoffer)
    show (entry.1 == entry.1 && entry.2 == entry.2) = true
    rw [beq_self_eq_true, hoffers, Bool.and_self]
  have hvalues : Json.sameObject state.values state.values = true := Json.same_self h.values
  show (state.sameContent state && state.revision == state.revision) = true
  simp only [State.sameContent, hvalues, hchoices, NameMap.beq_self, beq_self_eq_true, Bool.and_self]

theorem of_sameBase (h : state.Distinct) (hbase : next.SameBase state) : next.Distinct :=
  ⟨by rw [hbase.values]; exact h.values, by rw [hbase.choices]; exact h.offers⟩

theorem insert_choices (h : state.Distinct) {item : String} {offers : List Offer}
    (hoffers : ∀ offer ∈ offers, offer.value.Distinct) :
    ({ state with choices := state.choices.insert item offers } : State).Distinct := by
  refine ⟨h.values, fun other found hmem => ?_⟩
  rw [NameMap.mem_entries, NameMap.get?_insert] at hmem
  split at hmem
  · cases hmem; exact hoffers
  · exact h.offers other found (NameMap.mem_entries.2 hmem)

end State.Distinct

/-! ### Passes -/

section

variable {form : Form} {setting : Setting} {item : Form.Item} {pass : Pass} {state : State} {full : Bool}
  {schedule : Schedule}

theorem Form.distinct_options (h : form.definition.Distinct) (hitem : item ∈ form.items) :
    ∀ choice ∈ item.options, choice.value.Distinct := by
  intro choice hchoice
  rw [(getElem?_items (getElem?_index hitem)).2] at hchoice
  obtain ⟨source, hsource, rfl⟩ := List.mem_map.1 hchoice
  exact (h.items item.source (source_mem hitem)).options source hsource

variable (hdefinition : form.definition.Distinct) (huser : setting.user.Distinct) (htask : setting.task.Distinct)
include hdefinition huser htask

theorem Pass.distinct_step_state (hitem : item ∈ form.items) (h : pass.state.Distinct) :
    (step setting full schedule pass item).state.Distinct := by
  refine ⟨distinct_step huser htask hitem h.values, ?_⟩
  cases hfreezes : schedule.freezes item.index with
  | true =>
    rw [step_of_frozen hfreezes]
    cases full with
    | false => exact h.offers
    | true => rw [if_pos rfl, flagged_state]; exact h.offers
  | false =>
    rw [step_of_free hfreezes, runItem_state hitem]
    by_cases hdue : pass.offersDue full item = true
    · simp only [hdue, if_true]
      exact (h.insert_choices (Form.distinct_offersIn hitem (Form.distinct_options hdefinition hitem)
        ⟨distinct_beforeChoices huser htask hitem h.values, huser, htask⟩)).offers
    · simp only [hdue]
      exact h.offers

theorem State.Distinct.runPass (h : state.Distinct) (trigger : Trigger) :
    (form.runPass setting state trigger).1.Distinct :=
  List.foldlRecOn (motive := fun pass : Pass => pass.state.Distinct) (form.queue trigger) _ h
    fun _ hpass _ hitem =>
      Pass.distinct_step_state hdefinition huser htask (Form.mem_queue.1 hitem).1 hpass

theorem Form.distinct_initialState {answers : Fields Json} (h : ∀ field ∈ answers, field.2.Distinct) :
    (form.initialState setting answers).1.Distinct := by
  have hoffers : ∀ item offers, (item, offers) ∈ (form.blankState answers).choices.entries →
      ∀ offer ∈ offers, offer.value.Distinct := fun _ _ hmem => absurd hmem List.not_mem_nil
  refine State.Distinct.runPass hdefinition huser htask ⟨Json.distinct_setAll_of ?_ h, hoffers⟩ .full
  refine List.foldlRecOn (motive := fun values : Fields Json => (Json.obj values).Distinct) form.items _
    hdefinition.initialValues fun values hvalues item hitem => ?_
  split
  · rename_i answer value hanswer hdefault
    split
    · exact hvalues
    · have hitem := hdefinition.items item.source (source_mem hitem)
      exact Json.distinct_set hvalues (hitem.defaultValue value hdefault)
  · exact hvalues

end

/-! ### Sessions -/

namespace Session

/-- No object in a session names a field twice. -/
structure Distinct (session : Session) : Prop where
  definition : session.form.definition.Distinct
  user : session.setting.user.Distinct
  task : session.setting.task.Distinct
  state : session.state.Distinct
  staged : ∀ answer value, session.staged.get? answer = some value → value.Distinct

/-- No object that an operation comes with names a field twice. -/
def Operation.Distinct : Operation → Prop
  | .stage _ value | .apply (.answer _ value) => value.Distinct
  | .apply (.answers values) => ∀ field ∈ values, field.2.Distinct
  | .settle | .apply .reset | .validate _ | .mergeHostErrors _ | .resumeAt .. => True

namespace Distinct

variable {session staged : Session} {next : State}

theorem commit (h : session.Distinct) (hnext : next.Distinct) : (session.commit next).Distinct := by
  refine ⟨h.definition, h.user, h.task, ?_, h.staged⟩
  rcases session.state_commit next with ⟨hstate, -⟩ | hstate
  · rw [hstate]; exact h.state
  · rw [hstate]; exact ⟨hnext.values, hnext.offers⟩

theorem unstaged (h : session.Distinct) : ({ session with staged := .empty } : Session).Distinct :=
  ⟨h.definition, h.user, h.task, h.state, fun _ _ hstaged => nomatch hstaged⟩

theorem stage (h : session.Distinct) (answer : String) {value : Json} (hvalue : value.Distinct) :
    (session.stage answer value).Distinct := by
  rw [Session.stage]
  split
  · exact h
  · refine ⟨h.definition, h.user, h.task, h.state, fun other found hfound => ?_⟩
    rw [NameMap.get?_insert] at hfound
    split at hfound
    · cases hfound; exact hvalue
    · exact h.staged other found hfound

theorem of_settles {operation : Session.Operation} (h : session.Distinct) (hoperation : operation.Distinct)
    (hsettles : session.settles? operation = some staged) : staged.Distinct := by
  cases operation with
  | settle => cases hsettles; exact h
  | apply update =>
    cases update with
    | answer id value => cases hsettles; exact h.stage id hoperation
    | answers values =>
      cases hsettles
      exact List.foldlRecOn (motive := Session.Distinct) values _ h fun next hnext field hfield =>
        hnext.stage field.1 (hoperation field hfield)
    | reset => cases hsettles
  | stage | validate | mergeHostErrors | resumeAt => cases hsettles

theorem settle (h : session.Distinct) : session.settle.2.Distinct := by
  have hpending : ∀ field ∈ session.pending, field.2.Distinct := fun field hfield =>
    h.staged field.1 field.2 (NameMap.mem_entries.1 (List.mem_filter.1 hfield).1)
  rcases session.settle_eq with hsettle | hsettle
  · rw [hsettle]; exact h.unstaged
  · rw [hsettle]
    have hdraft : (session.state.setValues session.pending).Distinct :=
      ⟨Json.distinct_setAll_of h.state.values hpending, h.state.offers⟩
    exact h.unstaged.commit (hdraft.runPass h.definition h.user h.task _)

end Distinct
end Session

/-! ### Journeys -/

namespace Journey

/-- No object that an operation comes with names a field twice. -/
def Operation.Distinct : Operation → Prop
  | .session operation => operation.Distinct
  | .begin _ | .complete .. | .cancel => True

/-- The journeys that are reachable where no object in what is given names a field twice, as in what is read. -/
inductive ReachableDistinctly : Journey → Prop
  | start (form : Form) (setting : Setting) (answers : Fields Json) : form.definition.Distinct →
    setting.user.Distinct → setting.task.Distinct → (∀ field ∈ answers, field.2.Distinct) →
    ReachableDistinctly (.ofSession (.start form setting answers))
  | perform {journey : Journey} {operation : Operation} : operation.Distinct →
    ReachableDistinctly journey → ReachableDistinctly (journey.perform operation)
  | handOver {journey : Journey} (controller : Controller) :
    ReachableDistinctly journey → ReachableDistinctly { journey with controller }

variable {journey : Journey} {operation : Operation} {session : Session}

theorem ReachableDistinctly.reachable (h : journey.ReachableDistinctly) : journey.Reachable := by
  induction h with
  | start form setting answers => exact .start form setting answers
  | perform _ _ ih => exact ih.perform _
  | handOver controller _ ih => exact ih.handOver controller

theorem Changes.distinct (h : journey.Changes operation session) (hoperation : operation.Distinct)
    (hsession : journey.session.Distinct) : session.Distinct := by
  cases h with
  | nothing => exact hsession
  | staged answer value => exact hsession.stage answer hoperation
  | settled operation staged hsettles => exact (hsession.of_settles hoperation hsettles).settle
  | reset =>
    exact hsession.unstaged.commit
      (Form.distinct_initialState hsession.definition hsession.user hsession.task (List.forall_mem_nil _))
  | noted operation next hnotes => exact hsession.commit (hsession.state.of_sameBase hnotes.sameBase)

/-- Where none is given, no object in a session names a field twice. -/
theorem ReachableDistinctly.distinct (h : journey.ReachableDistinctly) : journey.session.Distinct := by
  induction h with
  | start form setting answers hdefinition huser htask hanswers =>
    exact ⟨hdefinition, huser, htask, Form.distinct_initialState hdefinition huser htask hanswers, nofun⟩
  | perform hoperation _ ih => exact (perform_changes _ _).distinct hoperation ih
  | handOver controller _ ih => exact ⟨ih.definition, ih.user, ih.task, ih.state, ih.staged⟩

end Journey

/-- Where no object names a field twice, to commit the latest state once more does nothing. -/
theorem Session.Distinct.commit_state {session : Session} (h : session.Distinct) :
    session.commit session.state = session := by
  have hstore : session.store.commit session.state = session.store := if_pos h.state.beq_self
  rw [Session.commit, hstore]

end Formwork
