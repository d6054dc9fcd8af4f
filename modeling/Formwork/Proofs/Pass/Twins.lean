import Formwork.Pass.Run
import Formwork.Proofs.Pass.Alike

/-!
# Passes over items that are alike

The steps of items that are alike do the same to a pass, up to the count of rules that fail (`step_alike`),
and forms of such items have the same schedule. So a pass over the one ends as a pass over the other does
(`Form.Alike.runPass_eq`).
-/

namespace Formwork

/-! ### Steps -/

namespace Pass

variable {setting : Setting} {full : Bool} {schedule : Schedule} {pass other : Pass} {item twin : Form.Item}

/-- The pass with no rule counted that has failed. -/
def forgetFailures (pass : Pass) : Pass := { pass with report := { pass.report with failedRules := 0 } }

theorem forget_setAnswer (answer : String) (value : Json) :
    (pass.setAnswer answer value).forgetFailures = pass.forgetFailures.setAnswer answer value := by
  have hvalue : pass.forgetFailures.state.value? answer = pass.state.value? answer := rfl
  rw [setAnswer, setAnswer, hvalue]
  split
  · rfl
  · rfl

theorem forget_dropUnoffered (offers : List Offer) :
    (pass.dropUnoffered item offers).forgetFailures = pass.forgetFailures.dropUnoffered item offers := by
  have hvalue : pass.forgetFailures.state.value? = pass.state.value? := rfl
  rw [dropUnoffered, dropUnoffered, hvalue]
  cases item.answer? with
  | none => rfl
  | some answer =>
    dsimp only
    cases (pass.state.value? answer).bind (Offer.replacement? offers) with
    | none => rfl
    | some value => exact forget_setAnswer answer value

theorem forget_runVisible : (runVisible setting full pass item).forgetFailures =
    if full || pass.isAnyDue full item.visible.toList then
      { pass.forgetFailures with state := { pass.state with
        visibility := pass.state.visibility.insert item.id (item.shownIn setting pass.state.values) } }
    else pass.forgetFailures := by
  rw [runVisible, flag?_eq, Form.Item.shownIn]
  by_cases h : full || pass.isAnyDue full item.visible.toList
  · rw [if_pos h, if_pos h]; cases item.visible <;> rfl
  · rw [if_neg h, if_neg h]

theorem forget_runReadOnly : (runReadOnly setting full pass item).forgetFailures =
    if full || pass.isAnyDue full item.readOnly.toList then
      { pass.forgetFailures with state := { pass.state with
        readOnly := pass.state.readOnly.insert item.id (item.lockedIn setting pass.state.values) } }
    else pass.forgetFailures := by
  rw [runReadOnly, flag?_eq, Form.Item.lockedIn]
  by_cases h : full || pass.isAnyDue full item.readOnly.toList
  · rw [if_pos h, if_pos h]; cases item.readOnly <;> rfl
  · rw [if_neg h, if_neg h]

theorem forget_runValue : (runValue setting full pass item).forgetFailures =
    if pass.isAnyDue full (item.rulesOf .value) then
      match item.ruledIn? setting pass.state.values, item.answer? with
      | some value, some answer => pass.forgetFailures.setAnswer answer value
      | _, _ => pass.forgetFailures
    else pass.forgetFailures := by
  by_cases h : pass.isAnyDue full (item.rulesOf .value) = true
  · obtain ⟨rule, -, hrun⟩ := runValue_of_due setting h
    rw [if_pos h, hrun]
    cases item.ruledIn? setting pass.state.values with
    | none => rfl
    | some value =>
      cases item.answer? with
      | none => rfl
      | some answer => exact forget_setAnswer answer value
  · rw [if_neg h, runValue_of_not_due (by simpa using h)]

/-- The pass with the choices of an item. -/
def offering (pass : Pass) (item : Form.Item) (offers : List Offer) : Pass :=
  { pass with state := { pass.state with choices := pass.state.choices.insert item.id offers } }

theorem forget_runChoices : (runChoices setting full pass item).forgetFailures =
    if pass.offersDue full item then
      let offers := item.offersIn setting pass.state.values
      (if item.hasChoiceRules then pass.forgetFailures.dropUnoffered item offers
        else pass.forgetFailures).offering item offers
    else pass.forgetFailures := by
  by_cases hdue : pass.offersDue full item = true
  · have hoffering (pass : Pass) (offers : List Offer) :
        (pass.offering item offers).forgetFailures = pass.forgetFailures.offering item offers := rfl
    rw [if_pos hdue]
    rw [offersDue] at hdue
    rw [runChoices, if_pos hdue]
    cases item.hasChoiceRules with
    | false => rfl
    | true =>
      simp only [if_true]
      exact (hoffering _ _).trans (congrArg (offering · item _) (forget_dropUnoffered _))
  · rw [if_neg hdue, runChoices_of_not_due (by simpa using hdue)]

/-! ### Steps of items that are alike -/

theorem state_eq_of_forget (h : other.forgetFailures = pass.forgetFailures) : other.state = pass.state := by
  have hstate := congrArg Pass.state h
  exact hstate

theorem changed_eq_of_forget (h : other.forgetFailures = pass.forgetFailures) :
    other.changed = pass.changed := by
  have hchanged := congrArg Pass.changed h
  exact hchanged

theorem isAnyDue_congr {rules twins : List Form.Rule} (hchanged : other.changed = pass.changed)
    (hrules : twins.map (·.dependsOn) = rules.map (·.dependsOn)) :
    other.isAnyDue full twins = pass.isAnyDue full rules := by
  have hany (pass : Pass) (rules : List Form.Rule) :
      pass.isAnyDue full rules = (rules.map (·.dependsOn)).any (pass.isDue full) := by
    rw [List.any_map]
    rfl
  have hdue : other.isDue full = pass.isDue full := by
    funext answers
    rw [isDue, isDue, hchanged]
  rw [hany, hany, hrules, hdue]

theorem offersDue_congr (h : item.Alike setting twin) (hchanged : other.changed = pass.changed) :
    other.offersDue full twin = pass.offersDue full item := by
  have hoptions : twin.options.isEmpty = item.options.isEmpty := by
    have hoptions := h.options
    generalize item.options = options at hoptions
    generalize twin.options = twins at hoptions
    cases hoptions <;> rfl
  rw [offersDue, offersDue, isDue, isDue, h.choiceDependencies_eq, h.hasChoiceRules_eq, hoptions, hchanged]

section

variable (h : item.Alike setting twin) (hpass : other.forgetFailures = pass.forgetFailures)
include h hpass

theorem runVisible_alike : (runVisible setting full other twin).forgetFailures =
    (runVisible setting full pass item).forgetFailures := by
  have hstate : other.state = pass.state := state_eq_of_forget hpass
  have hchanged : other.changed = pass.changed := changed_eq_of_forget hpass
  rw [forget_runVisible, forget_runVisible, isAnyDue_congr hchanged (Form.Rule.Alike.map_dependsOn h.visible),
    hpass, hstate, h.shownIn_eq, h.id]

theorem runReadOnly_alike : (runReadOnly setting full other twin).forgetFailures =
    (runReadOnly setting full pass item).forgetFailures := by
  have hstate : other.state = pass.state := state_eq_of_forget hpass
  have hchanged : other.changed = pass.changed := changed_eq_of_forget hpass
  rw [forget_runReadOnly, forget_runReadOnly,
    isAnyDue_congr hchanged (Form.Rule.Alike.map_dependsOn h.readOnly), hpass, hstate, h.lockedIn_eq, h.id]

theorem runValue_alike : (runValue setting full other twin).forgetFailures =
    (runValue setting full pass item).forgetFailures := by
  have hstate : other.state = pass.state := state_eq_of_forget hpass
  have hchanged : other.changed = pass.changed := changed_eq_of_forget hpass
  have hdue : other.isAnyDue full (twin.rulesOf .value) = pass.isAnyDue full (item.rulesOf .value) :=
    isAnyDue_congr hchanged (Form.Rule.Alike.map_dependsOn h.value)
  rw [forget_runValue, forget_runValue, hdue, hpass, hstate, h.ruledIn?_eq, h.answer?]

theorem runChoices_alike : (runChoices setting full other twin).forgetFailures =
    (runChoices setting full pass item).forgetFailures := by
  have hstate : other.state = pass.state := state_eq_of_forget hpass
  have hchanged : other.changed = pass.changed := changed_eq_of_forget hpass
  have hdrop (offers : List Offer) : pass.forgetFailures.dropUnoffered twin offers =
      pass.forgetFailures.dropUnoffered item offers := by
    rw [dropUnoffered, dropUnoffered, h.answer?]
  have hoffering (pass : Pass) (offers : List Offer) :
      pass.offering twin offers = pass.offering item offers := by
    rw [offering, offering, h.id]
  rw [forget_runChoices, forget_runChoices, offersDue_congr h hchanged, hpass, hstate, h.offersIn_eq,
    h.hasChoiceRules_eq]
  simp only [hdrop, hoffering]

theorem noteItem_alike : (other.noteItem twin).forgetFailures = (pass.noteItem item).forgetFailures := by
  have hnote : (other.noteItem twin).forgetFailures = other.forgetFailures.noteItem twin := rfl
  rw [hnote, hpass, noteItem, h.id]
  rfl

theorem runFlags_alike : (runReadOnly setting full (runVisible setting full other twin) twin).forgetFailures =
    (runReadOnly setting full (runVisible setting full pass item) item).forgetFailures :=
  runReadOnly_alike h (runVisible_alike h hpass)

theorem runItem_alike : (runItem setting full other twin).forgetFailures =
    (runItem setting full pass item).forgetFailures := by
  have hchanged : other.changed = pass.changed := changed_eq_of_forget hpass
  have hvalue : (runValue setting full
        (runReadOnly setting full (runVisible setting full other twin) twin) twin).forgetFailures = _ :=
    runValue_alike h (runFlags_alike h hpass)
  have hchoices : (runChoices setting full _ twin).forgetFailures = _ := runChoices_alike h hvalue
  rw [runItem, runItem, isAnyDue_congr hchanged h.map_derivedRules]
  split
  · exact noteItem_alike h hchoices
  · exact hchoices

theorem runFrozen_alike : (runFrozen setting full other twin).forgetFailures =
    (runFrozen setting full pass item).forgetFailures := by
  have hflags : (runReadOnly setting full (runVisible setting full other twin) twin).forgetFailures = _ :=
    runFlags_alike h hpass
  have hrules : twin.flagRules.isEmpty = item.flagRules.isEmpty := by
    rw [← List.isEmpty_map (f := fun rule : Form.Rule => rule.dependsOn), h.map_flagRules, List.isEmpty_map]
  rw [runFrozen, runFrozen, hrules]
  split
  · split
    · exact hflags
    · exact noteItem_alike h hflags
  · exact hpass

/-- The steps of items that are alike differ at most in how many rules fail. -/
theorem step_alike : (step setting full schedule other twin).forgetFailures =
    (step setting full schedule pass item).forgetFailures := by
  rw [step, step, h.index]
  split
  · exact runFrozen_alike h hpass
  · exact runItem_alike h hpass

end

theorem foldl_step_alike {items twins : List Form.Item} (h : List.Forall₂ (Form.Item.Alike setting) items twins)
    (hpass : other.forgetFailures = pass.forgetFailures) :
    (twins.foldl (step setting full schedule) other).forgetFailures =
      (items.foldl (step setting full schedule) pass).forgetFailures := by
  induction h generalizing pass other with
  | nil => exact hpass
  | cons h _ ih => exact ih (step_alike h hpass)

end Pass

/-! ### Forms of such items -/

namespace Form

variable {setting : Setting} {form other : Form}

/-- Forms whose items no pass can tell apart. -/
structure Alike (setting : Setting) (form other : Form) : Prop where
  index : other.index = form.index
  items : List.Forall₂ (Item.Alike setting) form.items other.items

theorem rel_getElem? {items twins : List Item} (h : List.Forall₂ (Item.Alike setting) items twins) (i : Nat) :
    Option.Rel (Item.Alike setting) items[i]? twins[i]? := by
  induction h generalizing i with
  | nil => exact .none
  | cons h _ ih =>
    cases i with
    | zero => exact .some h
    | succ i => exact ih i

theorem eq_of_rel {α : Type} {f : Option Item → α}
    (hsome : ∀ {item twin : Item}, item.Alike setting twin → f (some twin) = f (some item))
    {item twin : Option Item} (h : Option.Rel (Item.Alike setting) item twin) : f twin = f item := by
  cases h with
  | none => rfl
  | some h => exact hsome h

namespace Alike

variable (h : form.Alike setting other)
include h

/-- Alike items are at the same places. -/
theorem rel_items (i : Nat) : Option.Rel (Item.Alike setting) form.items[i]? other.items[i]? :=
  rel_getElem? h.items i

theorem length_eq : other.items.length = form.items.length := h.items.length_eq.symm

/-- Alike items hold an answer. -/
theorem rel_itemOf? (answer : String) :
    Option.Rel (Item.Alike setting) (form.itemOf? answer) (other.itemOf? answer) := by
  have hitems := h.items
  rw [itemOf?, itemOf?]
  generalize form.items = items at hitems
  generalize other.items = twins at hitems
  induction hitems with
  | nil => exact .none
  | cons hitem _ ih =>
    rw [List.find?_cons, List.find?_cons, hitem.answer?]
    split
    · exact .some hitem
    · exact ih

theorem produced?_eq : other.produced? = form.produced? := by
  funext i
  exact eq_of_rel (f := (·.bind (·.produced?))) (fun hitem => hitem.produced?_eq) (h.rel_items i)

theorem itemId_eq : other.itemId = form.itemId := by
  funext i
  exact eq_of_rel (f := fun item => (item.map Item.id).getD "") (fun hitem => hitem.id) (h.rel_items i)

theorem spread?_eq (answers : List String) : other.spread? answers = form.spread? answers := by
  have hmeet : Spread.meet other = Spread.meet form := by
    funext spread i
    rw [Spread.meet, Spread.meet, h.produced?_eq]
  have hrun : Spread.run other = Spread.run form := by
    funext steps
    induction steps with
    | zero => rfl
    | succ steps ih =>
      funext spread
      simp only [Spread.run, Spread.visit, hmeet, h.index, ih]
  rw [spread?, spread?, hrun, h.length_eq]

theorem producers_eq (candidates : List Nat) : other.producers candidates = form.producers candidates := by
  funext i
  have hproducer : other.producer? candidates i = form.producer? candidates i := by
    funext answer
    refine eq_of_rel (f := (·.bind fun item => if item.index != i && item.producesAnswer &&
      candidates.contains item.index then some item.index else none)) (fun hitem => ?_) (h.rel_itemOf? answer)
    simp only [Option.bind_some, hitem.index, hitem.producesAnswer_eq]
  have hdependencies : (other.items[i]?.map (·.derivedDependencies)).getD [] =
      (form.items[i]?.map (·.derivedDependencies)).getD [] :=
    eq_of_rel (f := fun item => (item.map Item.derivedDependencies).getD [])
      (fun hitem => hitem.derivedDependencies_eq) (h.rel_items i)
  rw [producers, producers, hproducer, hdependencies]

theorem dependencyGraph_eq (candidates : List Nat) :
    other.dependencyGraph candidates = form.dependencyGraph candidates := by
  rw [dependencyGraph, dependencyGraph, h.producers_eq]

theorem candidates_eq (trigger : Trigger) : other.candidates trigger = form.candidates trigger := by
  cases trigger with
  | full => rw [candidates, candidates, h.length_eq]
  | changed answers => rw [candidates, candidates, affected, affected, h.spread?_eq]

theorem schedule_eq (trigger : Trigger) : other.schedule trigger = form.schedule trigger := by
  rw [schedule, schedule, h.candidates_eq, h.dependencyGraph_eq]

theorem scheduled_alike (schedule : Schedule) :
    List.Forall₂ (Item.Alike setting) (form.scheduled schedule) (other.scheduled schedule) := by
  rw [scheduled, scheduled]
  induction schedule.order with
  | nil => exact .nil
  | cons i order ih =>
    rw [List.filterMap_cons, List.filterMap_cons]
    have hitem := h.rel_items i
    generalize form.items[i]? = item at hitem
    generalize other.items[i]? = twin at hitem
    cases hitem with
    | none => exact ih
    | some hitem => exact .cons hitem ih

/-- Forms that are alike end a pass in the same state, and report the same but for how many rules have
failed. -/
theorem runPass_eq (state : State) (trigger : Trigger) :
    (other.runPass setting state trigger).1 = (form.runPass setting state trigger).1 ∧
      { (other.runPass setting state trigger).2 with failedRules := 0 } =
        { (form.runPass setting state trigger).2 with failedRules := 0 } := by
  have hpasses : ((other.scheduled (form.schedule trigger)).foldl
        (Pass.step setting trigger.isFull (form.schedule trigger))
        (other.openPass state trigger (form.schedule trigger))).forgetFailures =
      ((form.scheduled (form.schedule trigger)).foldl
        (Pass.step setting trigger.isFull (form.schedule trigger))
        (form.openPass state trigger (form.schedule trigger))).forgetFailures := by
    refine Pass.foldl_step_alike (h.scheduled_alike _) ?_
    rw [openPass, openPass, h.itemId_eq]
  rw [runPass, runPass, h.schedule_eq]
  exact ⟨Pass.state_eq_of_forget hpasses, congrArg Pass.report hpasses⟩

end Alike
end Form
end Formwork
