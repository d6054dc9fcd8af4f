import Formwork.Proofs.Expr.Locality

/-!
# Passes after an edit do what full passes do

Take a form with local rules and no cycles, and a state that a pass over all rules leaves alone. After
an edit of answers that no rule writes, the pass over what the edit affects ends like a pass over all
rules. A slot that is due in both is filled from the same answers. One that is due only in the full
pass depends on nothing that changed, so that it is filled with what was there (`eq_of_renewed`). For
the answers this goes by induction along the order of the full pass, in which an item runs after those
that feed it (`value?_updated`).
-/

namespace Formwork

open Definition (Slot)

/-- Gives answers. -/
def State.setValues (state : State) (changes : Fields Json) : State :=
  { state with values := Fields.setAll state.values changes }

namespace Form

variable {form : Form} {setting : Setting} {state : State} {trigger : Trigger} {changes : Fields Json}
  {item : Item} {before after : List Item} {slot : Slot} {answer : String}

/-- The state after an edit and a pass over what it affects. -/
def updated (form : Form) (setting : Setting) (state : State) (changes : Fields Json) : State :=
  (form.runPass setting (state.setValues changes) (.changed (Fields.names changes))).1

/-- The state after an edit and a pass over all rules. -/
def recomputed (form : Form) (setting : Setting) (state : State) (changes : Fields Json) : State :=
  (form.runPass setting (state.setValues changes) .full).1

/-- If a pass over all rules freezes nothing, then no pass does. -/
theorem freezes_of_acyclic (hcycles : (form.schedule .full).cycles = []) (hitem : item ∈ form.items) :
    form.freezes trigger item = false := by
  by_contra hfrozen
  obtain ⟨cycle, hcycle, hmem⟩ := List.any_eq_true.1 (Bool.eq_true_of_not_eq_false hfrozen)
  obtain ⟨-, b, -, hne, hforth, hback⟩ := Graph.exists_joined_of_mem_cycle dependencyGraph_closed
    hcycle (List.contains_iff_mem.1 hmem)
  have hmore : ∀ i, ∀ j ∈ (form.dependencyGraph (form.candidates trigger)).next i,
      j ∈ (form.dependencyGraph (form.candidates .full)).next i := by
    intro i j hnext
    obtain ⟨first, hfirst, second, hsecond, rfl, rfl, hfeeds⟩ := exists_of_mem_next hnext
    exact (mem_next_dependencyGraph hfirst hsecond).2
      ⟨mem_candidates_full hfirst, mem_candidates_full hsecond, hfeeds⟩
  have hfull := freezes_of_joined (mem_candidates_full hitem) hne.symm
    ⟨hforth.mono hmore, hback.mono hmore⟩
  rw [freezes, Schedule.freezes, hcycles] at hfull; cases hfull

theorem due_full_iff : form.Due setting state .full item slot ↔ item.rulesOf slot ≠ [] := by
  refine ⟨fun h => ?_, fun h => .inl ⟨rfl, h⟩⟩
  rcases h with ⟨-, h⟩ | ⟨answer, hdeclared, -⟩
  · exact h
  · exact Item.rulesOf_ne_nil_of_declared hdeclared

theorem rulesOf_ne_nil_of_due {edited : List String}
    (h : form.Due setting state (.changed edited) item slot) : item.rulesOf slot ≠ [] := by
  rcases h with ⟨h, -⟩ | ⟨answer, hdeclared, -⟩
  · cases h
  · exact Item.rulesOf_ne_nil_of_declared hdeclared

/-- A slot that is not due after an edit declares only answers that are as before. -/
theorem agree_of_not_due
    (h : ¬ form.Due setting (state.setValues changes) (.changed (Fields.names changes)) item slot) :
    Agree (item.declared slot) (form.updated setting state changes).values state.values := by
  intro answer hdeclared
  have hnot : answer ∉ form.changes setting (state.setValues changes) (.changed (Fields.names changes)) :=
    fun hchanges => h (.inr ⟨answer, hdeclared, hchanges⟩)
  obtain ⟨hedited, hwritten⟩ := not_or.1 (List.mem_append.not.1 hnot)
  have hkept : (form.updated setting state changes).value? answer = (state.setValues changes).value? answer :=
    value?_of_notMem_changedAnswers hwritten
  exact hkept.trans (Fields.get?_setAll_of_notMem hedited)

/-- If a full pass leaves what is in a slot alone, then a full pass after an edit fills it like the
pass over what the edit affects. -/
theorem eq_of_renewed {α : Type} {extra : Prop} (make : Fields Json → α) {old new full : α}
    (hsettled : Renewed (Trigger.full = .full ∧ extra ∨ form.Due setting state .full item slot) old
      (make state.values) old)
    (hfull : Renewed (Trigger.full = .full ∧ extra ∨
        form.Due setting (state.setValues changes) .full item slot) old
      (make (form.recomputed setting state changes).values) full)
    (hnew : Renewed (Trigger.changed (Fields.names changes) = .full ∧ extra ∨
        form.Due setting (state.setValues changes) (.changed (Fields.names changes)) item slot) old
      (make (form.updated setting state changes).values) new)
    (hagree : Agree (item.declared slot) (form.updated setting state changes).values
      (form.recomputed setting state changes).values)
    (hmake : ∀ values others, Agree (item.declared slot) values others → make values = make others) :
    new = full := by
  rw [due_full_iff] at hsettled hfull
  by_cases hdue : form.Due setting (state.setValues changes) (.changed (Fields.names changes)) item slot
  · rw [hnew.of_due (.inr hdue), hfull.of_due (.inr (rulesOf_ne_nil_of_due hdue))]
    exact hmake _ _ hagree
  · have hold : new = old := hnew.of_not_due fun h => h.elim (fun h => by cases h.1) hdue
    rw [hold]
    by_cases hruns : Trigger.full = .full ∧ extra ∨ item.rulesOf slot ≠ []
    · calc old = make state.values := hsettled.of_due hruns
        _ = make (form.updated setting state changes).values := (hmake _ _ (agree_of_not_due hdue)).symm
        _ = make (form.recomputed setting state changes).values := hmake _ _ hagree
        _ = full := (hfull.of_due hruns).symm
    · exact (hfull.of_not_due hruns).symm

/-! ### Answers -/

theorem value?_of_not_produced (h : ∀ item ∈ form.items, item.produced? ≠ some answer) :
    (form.runPass setting state trigger).1.value? answer = state.value? answer := by
  refine value?_of_notMem_changedAnswers fun hwritten => ?_
  obtain ⟨before, item, after, hqueue, -, hanswer, hdecides⟩ := exists_writer hwritten
  exact h item (mem_items_of_queue hqueue) (produced?_of_decides hanswer hdecides)

section
variable (hlocal : ∀ item ∈ form.items, item.IsLocal setting)
  (hcycles : (form.schedule .full).cycles = [])
  (hsingle : ∀ item ∈ form.items, item.value = none ∨ item.hasChoiceRules = false)
  (hsettled : (form.runPass setting state .full).1 = state)
  (hinput : ∀ item ∈ form.items, ∀ answer, item.produced? = some answer → answer ∉ Fields.names changes)
include hlocal hcycles hsingle hsettled hinput

theorem value?_updated_of_produced (hitem : item ∈ form.items) (hproduced : item.produced? = some answer)
    (hagree : Agree item.derivedDependencies (form.updated setting state changes).values
      (form.recomputed setting state changes).values) :
    (form.updated setting state changes).value? answer =
      (form.recomputed setting state changes).value? answer := by
  have hanswer := Item.answer?_of_produced? hproduced
  have hstart : (state.setValues changes).value? answer = state.value? answer :=
    Fields.get?_setAll_of_notMem (hinput item hitem answer hproduced)
  have hrenewed := fun trigger state => renewed_answer state trigger hitem
    (freezes_of_acyclic hcycles hitem) (hlocal item hitem) hanswer (hsingle item hitem)
  have hold := hrenewed .full state
  rw [hsettled] at hold
  refine eq_of_renewed (item.decidedIn setting (state.value? answer)) hold
    (hstart ▸ hrenewed .full (state.setValues changes)) (hstart ▸ hrenewed _ (state.setValues changes))
    (fun d hd => hagree d (Item.mem_derivedDependencies.2 ⟨_, hd⟩))
    fun _ _ hagree => (hlocal item hitem).decidedIn_eq hagree

theorem value?_updated : (form.updated setting state changes).value? answer =
    (form.recomputed setting state changes).value? answer := by
  have hplain : ∀ {answer}, (∀ item ∈ form.items, item.produced? ≠ some answer) →
      (form.updated setting state changes).value? answer =
        (form.recomputed setting state changes).value? answer := fun h =>
    (value?_of_not_produced h).trans (value?_of_not_produced h).symm
  -- the answers of the queue, each after those that its item depends on
  have hqueue : ∀ length before item after, before.length = length →
      form.queue .full = before ++ item :: after → ∀ answer, item.produced? = some answer →
      (form.updated setting state changes).value? answer =
        (form.recomputed setting state changes).value? answer := by
    intro length
    induction length using Nat.strong_induction_on with
    | _ length ih
    intro before item after hlength hqueue answer hproduced
    have hitem := mem_items_of_queue hqueue
    refine value?_updated_of_produced hlocal hcycles hsingle hsettled hinput hitem hproduced
      fun d hdep => ?_
    by_cases hfeeds : ∃ other ∈ form.items, other.produced? = some d
    · obtain ⟨other, hother, hd⟩ := hfeeds
      have hbefore := mem_before_of_feeds hqueue (mem_queue.2 ⟨hother, mem_candidates_full hother⟩)
        ⟨d, hd, hdep⟩ (freezes_of_acyclic hcycles hother)
      obtain ⟨first, last, rfl⟩ := List.append_of_mem hbefore
      exact ih first.length (by rw [← hlength]; simp) first other (last ++ item :: after) rfl
        (by rw [hqueue]; simp) d hd
    · exact hplain fun other hother hd => hfeeds ⟨other, hother, hd⟩
  by_cases hproduced : ∃ item ∈ form.items, item.produced? = some answer
  · obtain ⟨item, hitem, hproduced⟩ := hproduced
    obtain ⟨before, after, heq⟩ := List.append_of_mem (mem_queue.2 ⟨hitem, mem_candidates_full hitem⟩)
    exact hqueue _ before item after rfl heq answer hproduced
  · exact hplain fun item hitem h => hproduced ⟨item, hitem, h⟩

/-! ### Flags and choices -/

/-- Entries that only the item of their name fills, from the answers that a slot declares, are the
same. -/
theorem entries_updated {β : Type} {map : State → NameMap β} (slot : Slot) (extra : Item → Prop)
    (make : Item → Fields Json → Option β) (hstart : map (state.setValues changes) = map state)
    (hrest : ∀ name, (¬ ∃ item ∈ form.items, item.id = name) → ∀ trigger state,
      (map (form.runPass setting state trigger).1).get? name = (map state).get? name)
    (hrenewed : ∀ item ∈ form.items, ∀ trigger state,
      Renewed (trigger = .full ∧ extra item ∨ form.Due setting state trigger item slot)
        ((map state).get? item.id) (make item (form.runPass setting state trigger).1.values)
        ((map (form.runPass setting state trigger).1).get? item.id))
    (hmake : ∀ item ∈ form.items, ∀ values others, Agree (item.declared slot) values others →
      make item values = make item others) :
    map (form.updated setting state changes) = map (form.recomputed setting state changes) := by
  refine NameMap.ext fun name => ?_
  by_cases hname : ∃ item ∈ form.items, item.id = name
  · obtain ⟨item, hitem, rfl⟩ := hname
    have hold := hrenewed item hitem .full state
    rw [hsettled] at hold
    exact eq_of_renewed (make item) hold (hstart ▸ hrenewed item hitem .full (state.setValues changes))
      (hstart ▸ hrenewed item hitem _ (state.setValues changes))
      (fun d _ => value?_updated hlocal hcycles hsingle hsettled hinput) (hmake item hitem)
  · exact (hrest name hname _ _).trans (hrest name hname _ _).symm

theorem visibility_updated :
    (form.updated setting state changes).visibility = (form.recomputed setting state changes).visibility := by
  exact entries_updated hlocal hcycles hsingle hsettled hinput .visible (fun _ => True)
    (fun item values => some (item.shownIn setting values)) rfl
    (fun name hname trigger state => visibility_of_no_item hname)
    (fun item hitem trigger state => renewed_visibility state trigger hitem (freezes_of_acyclic hcycles hitem)
      (hlocal item hitem))
    fun item hitem _ _ hagree => by rw [(hlocal item hitem).shownIn_eq hagree]

theorem readOnly_updated :
    (form.updated setting state changes).readOnly = (form.recomputed setting state changes).readOnly := by
  exact entries_updated hlocal hcycles hsingle hsettled hinput .readOnly (fun _ => True)
    (fun item values => some (item.lockedIn setting values)) rfl
    (fun name hname trigger state => readOnly_of_no_item hname)
    (fun item hitem trigger state => renewed_readOnly state trigger hitem (freezes_of_acyclic hcycles hitem)
      (hlocal item hitem))
    fun item hitem _ _ hagree => by rw [(hlocal item hitem).lockedIn_eq hagree]

theorem choices_updated :
    (form.updated setting state changes).choices = (form.recomputed setting state changes).choices := by
  exact entries_updated hlocal hcycles hsingle hsettled hinput .choices (fun item => item.options ≠ [])
    (fun item values => some (item.offersIn setting values)) rfl
    (fun name hname trigger state => choices_of_no_item hname)
    (fun item hitem trigger state => renewed_choices state trigger hitem (freezes_of_acyclic hcycles hitem)
      (hlocal item hitem))
    fun item hitem _ _ hagree => by rw [(hlocal item hitem).offersIn_eq hagree]

end

/-- A pass over what an edit affects ends like a pass over all rules. This holds of forms with local
rules, without cycles, and without items that have both a rule for their value and rules for their
choices; of states that a pass over all rules leaves alone; and of edits of answers that no rule
writes. -/
theorem incremental_eq_full (form : Form) (setting : Setting) (state : State) (changes : Fields Json)
    (hlocal : ∀ item ∈ form.items, ∀ rule ∈ item.derivedRules, rule.IsLocal setting)
    (hcycles : (form.schedule .full).cycles = [])
    (hsingle : ∀ item ∈ form.items, ¬ (item.value.isSome = true ∧ item.hasChoiceRules = true))
    (hsettled : (form.runPass setting state .full).1 = state)
    (hinput : ∀ answer ∈ Fields.names changes, ∀ item ∈ form.items, item.producesAnswer = true →
      item.answer? ≠ some answer) :
    let start := { state with values := Fields.setAll state.values changes }
    let incremental := (form.runPass setting start (.changed (Fields.names changes))).1
    let full := (form.runPass setting start .full).1
    (∀ answer, incremental.value? answer = full.value? answer) ∧
      incremental.visibility = full.visibility ∧ incremental.readOnly = full.readOnly ∧
      incremental.choices = full.choices := by
  have hone : ∀ item ∈ form.items, item.value = none ∨ item.hasChoiceRules = false := by
    intro item hitem
    rcases Bool.eq_false_or_eq_true item.hasChoiceRules with h | h
    · exact .inl (Option.not_isSome_iff_eq_none.1 fun hvalue => hsingle item hitem ⟨hvalue, h⟩)
    · exact .inr h
  have hfresh : ∀ item ∈ form.items, ∀ answer, item.produced? = some answer →
      answer ∉ Fields.names changes := by
    intro item hitem answer hproduced hmem
    have hproduces : item.producesAnswer = true := by
      by_contra h
      rw [Item.produced?, if_neg h] at hproduced; cases hproduced
    exact hinput answer hmem item hitem hproduces (Item.answer?_of_produced? hproduced)
  exact ⟨fun answer => value?_updated hlocal hcycles hone hsettled hfresh,
    visibility_updated hlocal hcycles hone hsettled hfresh,
    readOnly_updated hlocal hcycles hone hsettled hfresh,
    choices_updated hlocal hcycles hone hsettled hfresh⟩

/-- A state of `echo` that a pass over all rules leaves alone. -/
def echoSettled : State where
  values := [("a", .str "x"), ("b", .str "x")]
  visibility := .ofList [("a", true), ("b", true), ("c", true)]
  readOnly := .ofList [("a", false), ("b", false), ("c", false)]

theorem echo_settled : (echo.runPass {} echoSettled .full).1 = echoSettled := by
  have horder : (echo.schedule .full).order = [0, 1, 2] := by decide +kernel
  have hcycles : (echo.schedule .full).cycles = [] := by decide +kernel
  have hschedule : echo.schedule .full = ⟨[0, 1, 2], []⟩ := by rw [← horder, ← hcycles]
  rw [runPass, hschedule]; rfl

theorem echo_isLocal (item : Item) (hitem : item ∈ echo.items) : item.IsLocal {} := by
  intro rule hrule
  have hall : echo.items.flatMap (·.derivedRules) =
      [⟨⟨"data.a", .ok (.path .data [.field "a"])⟩, ["a"]⟩,
        ⟨⟨"data.b", .ok (.path .data [.field "b"])⟩, ["b"]⟩] := rfl
  have hmem : rule ∈ echo.items.flatMap (·.derivedRules) := List.mem_flatMap.2 ⟨item, hitem, hrule⟩
  rw [hall, List.mem_cons, List.mem_singleton] at hmem
  rcases hmem with rfl | rfl
  · exact Rule.isLocal_of_names rfl (by decide) (by decide)
  · exact Rule.isLocal_of_names rfl (by decide) (by decide)

/-- An edit of `a` in the settled state. -/
theorem incremental_eq_full_echo :
    let start := echoSettled.setValues [("a", .str "")]
    let incremental := (echo.runPass {} start (.changed ["a"])).1
    let full := (echo.runPass {} start .full).1
    incremental.value? "b" = full.value? "b" ∧ incremental.visibility = full.visibility ∧
      incremental.visibility.get? "c" = some false := by
  have hsame := incremental_eq_full echo {} echoSettled [("a", .str "")] echo_isLocal (by decide +kernel)
    (by decide +kernel) echo_settled (by decide +kernel)
  exact ⟨hsame.1 "b", hsame.2.1, by decide +kernel⟩

end Form

end Formwork
