import Formwork.Proofs.Pass.Incremental
import Formwork.Proofs.Pass.Reorder
import Formwork.Proofs.Pass.Trace

/-!
# The order of the items does not matter

Two forms with the same items in different orders go through them in different orders too. With local
rules, an item is left with the same part by both passes: where it runs, the answers that it depends on
have their final values and count as changed if they ever do, in both. So the two passes are alike for
the item if they are for the items that feed it, and these stand before it in the queue
(`Form.trace_of_twins`).
-/

namespace Formwork

open Definition (Slot)

/-- States with the same answers, in any order, and the same flags and choices. -/
structure State.Matches (state other : State) : Prop where
  value? : ∀ answer, state.value? answer = other.value? answer
  visibility : state.visibility = other.visibility
  readOnly : state.readOnly = other.readOnly
  choices : state.choices = other.choices

namespace Form

variable {form other : Form} {setting : Setting} {state start : State} {trigger : Trigger}
  {item twin : Item} {before after : List Item} {answer name : String}

/-! ### Twins run alike -/

namespace Twins

variable (h : form.Twins other item twin) (setting : Setting) (full : Bool) (p : Pass)
include h

theorem trace_eq : p.trace item = p.trace twin := by
  rw [Pass.trace, h.answer?_eq, h.id_eq, Pass.trace]

theorem candidates_eq (values : Fields Json) : item.candidates setting values = twin.candidates setting values := by
  have hcandidates : item.candidatesOf? = twin.candidatesOf? := by
    funext yielded
    unfold Item.candidatesOf?
    rw [h.options_eq]
  rw [Item.candidates, hcandidates, h.choices_eq, h.options_eq, Item.candidates]

theorem runVisible_eq : Pass.runVisible setting full p item = Pass.runVisible setting full p twin := by
  rw [Pass.runVisible, h.visible_eq, h.id_eq, Pass.runVisible]

theorem runReadOnly_eq : Pass.runReadOnly setting full p item = Pass.runReadOnly setting full p twin := by
  rw [Pass.runReadOnly, h.readOnly_eq, h.id_eq, Pass.runReadOnly]

theorem runValue_eq : Pass.runValue setting full p item = Pass.runValue setting full p twin := by
  rw [Pass.runValue, h.value_eq, h.answer?_eq, Pass.runValue]

theorem runChoices_eq : Pass.runChoices setting full p item = Pass.runChoices setting full p twin := by
  have hdropped : ∀ offers : List Offer, ∀ pass : Pass,
      pass.dropUnoffered item offers = pass.dropUnoffered twin offers := fun offers pass => by
    rw [Pass.dropUnoffered, h.answer?_eq, Pass.dropUnoffered]
  have hdependencies : item.choiceDependencies = twin.choiceDependencies := by
    rw [Item.choiceDependencies, h.choiceRules_eq, Item.choiceDependencies]
  simp only [Pass.runChoices, hdependencies, h.hasChoiceRules_eq, h.options_eq, h.candidates_eq, h.choices_eq,
    hdropped, h.id_eq]

theorem noteItem_eq : p.noteItem item = p.noteItem twin := by
  rw [Pass.noteItem, h.id_eq, Pass.noteItem]

theorem runItem_eq : Pass.runItem setting full p item = Pass.runItem setting full p twin := by
  simp only [Pass.runItem, h.runVisible_eq, h.runReadOnly_eq, h.runValue_eq, h.runChoices_eq, h.noteItem_eq,
    h.derivedRules_eq]

theorem runFrozen_eq : Pass.runFrozen setting full p item = Pass.runFrozen setting full p twin := by
  simp only [Pass.runFrozen, h.runVisible_eq, h.runReadOnly_eq, h.noteItem_eq, h.flagRules_eq]

end Twins

/-! ### The part of an item in a whole pass -/

/-- A pass when all items have run. -/
def lastPass (form : Form) (setting : Setting) (state : State) (trigger : Trigger) : Pass :=
  form.passAfter setting state trigger (form.queue trigger)

theorem trace_openPass {schedule schedule' : Schedule} (hstart : state.Matches start) :
    (form.openPass state trigger schedule).trace item = (other.openPass start trigger schedule').trace item := by
  have hvalue : state.value? = start.value? := funext hstart.value?
  simp only [Pass.trace, openPass, hvalue, hstart.visibility, hstart.readOnly, hstart.choices]

theorem trace_passAfter (setting : Setting) (state : State) (hqueue : form.queue trigger = before ++ item :: after) :
    (form.passAfter setting state trigger before).trace item =
        (form.openPass state trigger (form.schedule trigger)).trace item ∧
      (form.lastPass setting state trigger).trace item = (Pass.step setting trigger.isFull
        (form.schedule trigger) (form.passAfter setting state trigger before) item).trace item := by
  have hitem := mem_items_of_queue hqueue
  have hitems : ∀ other ∈ before ++ item :: after, other ∈ form.items := fun other hother =>
    (mem_queue.1 (hqueue ▸ hother)).1
  obtain ⟨-, hafter, hbefore⟩ := List.nodup_append.1 (hqueue ▸ nodup_queue)
  constructor
  · refine passAfter_get (fun pass => pass.trace item) state [] fun other hother pass => ?_
    exact Pass.trace_step_of_ne hitem (hitems other (List.mem_append_left _ hother))
      (hbefore other hother item List.mem_cons_self)
  · have hrest : (form.passAfter setting state trigger ((before ++ [item]) ++ after)).trace item = _ :=
      passAfter_get (fun pass => pass.trace item) state (before ++ [item]) fun other hother pass =>
        Pass.trace_step_of_ne hitem (hitems other (by simp [hother]))
          (fun heq => (List.nodup_cons.1 hafter).1 (heq ▸ hother))
    rw [List.append_assoc, List.singleton_append, ← hqueue, passAfter_concat] at hrest
    exact hrest

theorem trace_of_notMem_queue (setting : Setting) (state : State) (hitem : item ∈ form.items)
    (h : item ∉ form.queue trigger) : (form.lastPass setting state trigger).trace item =
      (form.openPass state trigger (form.schedule trigger)).trace item := by
  refine passAfter_get (fun pass => pass.trace item) state [] fun other hother pass => ?_
  exact Pass.trace_step_of_ne hitem (mem_queue.1 hother).1 fun heq => h (heq ▸ hother)

theorem count_evaluatedItems_of_no_item (h : ¬ ∃ item ∈ form.items, item.id = name) :
    (form.runPass setting state trigger).2.evaluatedItems.count name = 0 := by
  have hnever : ∀ other ∈ form.queue trigger, other.id ≠ name := fun other hother hid =>
    h ⟨other, (mem_queue.1 hother).1, hid⟩
  exact passAfter_get (fun pass => pass.report.evaluatedItems.count name) state [] fun other hother pass =>
    Pass.count_evaluatedItems_step (hnever other hother)

/-! ### Answers -/

/-- Two passes end with the same answer, and both have written it or neither. -/
structure SameAt (p q : Pass) (answer : String) : Prop where
  value? : p.state.value? answer = q.state.value? answer
  changed : answer ∈ p.report.changedAnswers ↔ answer ∈ q.report.changedAnswers

theorem sameAt_of_trace {p q : Pass} (h : form.Twins other item twin) (hanswer : item.answer? = some answer)
    (htrace : p.trace item = q.trace twin) : SameAt p q answer := by
  rw [← h.trace_eq] at htrace
  have hvalue := congrArg Trace.answer htrace
  have hwrites := congrArg Trace.writes htrace
  simp only [Pass.trace, hanswer, Option.bind_some, Option.elim_some] at hvalue hwrites
  refine ⟨hvalue, ?_⟩
  rw [← List.count_pos_iff, ← List.count_pos_iff, hwrites]

theorem notMem_changedAnswers (h : ∀ maker ∈ form.queue trigger, form.freezes trigger maker = false →
    maker.produced? ≠ some answer) : answer ∉ (form.runPass setting state trigger).2.changedAnswers := by
  intro hwritten
  obtain ⟨before, maker, after, hqueue, hfree, hanswer, hdecides⟩ := exists_writer hwritten
  exact h maker (hqueue ▸ List.mem_append_right before List.mem_cons_self) hfree
    (produced?_of_decides hanswer hdecides)

theorem sameAt_of_not_written (hstart : state.Matches start)
    (h : answer ∉ (form.runPass setting state trigger).2.changedAnswers)
    (h' : answer ∉ (other.runPass setting start trigger).2.changedAnswers) :
    SameAt (form.lastPass setting state trigger) (other.lastPass setting start trigger) answer := by
  refine ⟨?_, iff_of_false h h'⟩
  exact (value?_of_notMem_changedAnswers h).trans
    ((hstart.value? answer).trans (value?_of_notMem_changedAnswers h').symm)

section
variable (hreorders : form.Reorders other) (hlocal : ∀ item ∈ form.items, item.IsLocal setting)
  (hstart : state.Matches start)
include hreorders hlocal hstart

/-- An item runs alike in two passes that are the same at the answers it depends on. -/
theorem trace_step_of_twins {before' after' : List Item} (h : form.Twins other item twin)
    (hqueue : form.queue trigger = before ++ item :: after)
    (hqueue' : other.queue trigger = before' ++ twin :: after')
    (hsame : ∀ answer ∈ item.derivedDependencies,
      SameAt (form.lastPass setting state trigger) (other.lastPass setting start trigger) answer) :
    (form.lastPass setting state trigger).trace item = (other.lastPass setting start trigger).trace twin := by
  obtain ⟨hp, hdone⟩ := trace_passAfter setting state hqueue
  obtain ⟨hq, hdone'⟩ := trace_passAfter setting start hqueue'
  have halike : Pass.Alike item (form.passAfter setting state trigger before)
      (other.passAfter setting start trigger before') := by
    refine ⟨?_, fun answer hdep => ?_, fun answer hdep => ?_⟩
    · rw [h.trace_eq (other.passAfter setting start trigger before'), hp, hq, ← h.trace_eq]
      exact trace_openPass hstart
    · have hdep' : answer ∈ twin.derivedDependencies := h.derivedDependencies_eq ▸ hdep
      rw [value?_passAfter hqueue hdep, value?_passAfter hqueue' hdep']
      exact (hsame answer hdep).value?
    · have hdep' : answer ∈ twin.derivedDependencies := h.derivedDependencies_eq ▸ hdep
      rw [has_changed_passAfter hqueue hdep, has_changed_passAfter hqueue' hdep', changes, changes,
        List.mem_append, List.mem_append]
      exact or_congr_right (hsame answer hdep).changed
  have hfreezes := freezes_eq_of_twins trigger hreorders h
  rw [hdone, hdone', ← h.trace_eq]
  cases hfrozen : form.freezes trigger item with
  | true =>
    have hp' : (form.schedule trigger).freezes item.index = true := hfrozen
    have hq' : (other.schedule trigger).freezes twin.index = true := hfreezes.symm.trans hfrozen
    rw [Pass.step, if_pos hp', Pass.step, if_pos hq', ← h.runFrozen_eq]
    exact halike.runFrozen trigger.isFull h.mem (hlocal item h.mem)
  | false =>
    rw [Pass.step_of_free hfrozen, Pass.step_of_free (hfreezes.symm.trans hfrozen), ← h.runItem_eq]
    exact halike.runItem trigger.isFull h.mem (hlocal item h.mem)

/-- Both passes leave an item with the same part. -/
theorem trace_of_twins (trigger : Trigger) (h : form.Twins other item twin) :
    (form.lastPass setting state trigger).trace item = (other.lastPass setting start trigger).trace twin := by
  -- the items of the queue, each after those that feed it
  have hqueue : ∀ length before item after, before.length = length →
      form.queue trigger = before ++ item :: after → ∀ twin, form.Twins other item twin →
      (form.lastPass setting state trigger).trace item =
        (other.lastPass setting start trigger).trace twin := by
    intro length
    induction length using Nat.strong_induction_on with
    | _ length ih
    intro before item after hlength hqueue twin h
    have htwin : twin ∈ other.queue trigger :=
      mem_queue_of_twins hreorders h (hqueue ▸ List.mem_append_right before List.mem_cons_self)
    obtain ⟨before', after', hqueue'⟩ := List.append_of_mem htwin
    refine trace_step_of_twins hreorders hlocal hstart h hqueue hqueue' fun answer hdep => ?_
    by_cases hwriter : ∃ maker ∈ form.queue trigger, form.freezes trigger maker = false ∧
        maker.produced? = some answer
    · obtain ⟨maker, hmaker, hfree, hproduced⟩ := hwriter
      have hbefore := mem_before_of_feeds hqueue hmaker ⟨answer, hproduced, hdep⟩ hfree
      obtain ⟨first, last, rfl⟩ := List.append_of_mem hbefore
      obtain ⟨makerTwin, htwins⟩ := hreorders.exists_twin (mem_queue.1 hmaker).1
      refine sameAt_of_trace htwins (Item.answer?_of_produced? hproduced) ?_
      exact ih first.length (by rw [← hlength]; simp) first maker (last ++ item :: after) rfl
        (by rw [hqueue]; simp) makerTwin htwins
    · have hnone : ∀ maker ∈ form.queue trigger, form.freezes trigger maker = false →
          maker.produced? ≠ some answer := fun maker hmaker hfree hproduced =>
        hwriter ⟨maker, hmaker, hfree, hproduced⟩
      refine sameAt_of_not_written hstart (notMem_changedAnswers hnone) (notMem_changedAnswers ?_)
      intro makerTwin hmaker hfree hproduced
      obtain ⟨maker, htwins⟩ := hreorders.symm.exists_twin (mem_queue.1 hmaker).1
      exact hnone maker (mem_queue_of_twins hreorders.symm htwins hmaker)
        ((freezes_eq_of_twins trigger hreorders.symm htwins) ▸ hfree) (htwins.produced?_eq ▸ hproduced)
  by_cases hmem : item ∈ form.queue trigger
  · obtain ⟨before, after, heq⟩ := List.append_of_mem hmem
    exact hqueue _ before item after rfl heq twin h
  · have hmem' : twin ∉ other.queue trigger := fun htwin =>
      hmem (mem_queue_of_twins hreorders.symm h.symm htwin)
    rw [trace_of_notMem_queue setting state h.mem hmem, trace_of_notMem_queue setting start h.mem' hmem',
      ← h.trace_eq]
    exact trace_openPass hstart

theorem sameAt_of_reorders (answer : String) :
    SameAt (form.lastPass setting state trigger) (other.lastPass setting start trigger) answer := by
  by_cases hholder : ∃ item ∈ form.items, item.answer? = some answer
  · obtain ⟨item, hitem, hanswer⟩ := hholder
    obtain ⟨twin, htwins⟩ := hreorders.exists_twin hitem
    exact sameAt_of_trace htwins hanswer (trace_of_twins hreorders hlocal hstart trigger htwins)
  · refine sameAt_of_not_written hstart (notMem_changedAnswers ?_) (notMem_changedAnswers ?_)
    · intro maker hmaker _ hproduced
      exact hholder ⟨maker, (mem_queue.1 hmaker).1, Item.answer?_of_produced? hproduced⟩
    · intro makerTwin hmaker _ hproduced
      obtain ⟨maker, htwins⟩ := hreorders.symm.exists_twin (mem_queue.1 hmaker).1
      refine hholder ⟨maker, htwins.mem', ?_⟩
      rw [← htwins.answer?_eq]
      exact Item.answer?_of_produced? hproduced

/-- Entries that are a part of the item of their name, and that no pass touches for other names, are
the same. -/
theorem entries_of_reorders {α : Type} {map : State → NameMap α} (part : Trace → Option α)
    (hpart : ∀ (pass : Pass) item, (map pass.state).get? item.id = part (pass.trace item))
    (hkept : ∀ (form : Form) state name, (¬ ∃ item ∈ form.items, item.id = name) →
      (map (form.runPass setting state trigger).1).get? name = (map state).get? name)
    (hmap : map state = map start) :
    map (form.runPass setting state trigger).1 = map (other.runPass setting start trigger).1 := by
  refine NameMap.ext fun name => ?_
  by_cases hname : ∃ item ∈ form.items, item.id = name
  · obtain ⟨item, hitem, rfl⟩ := hname
    obtain ⟨twin, htwins⟩ := hreorders.exists_twin hitem
    have htrace := trace_of_twins hreorders hlocal hstart trigger htwins
    rw [← htwins.trace_eq] at htrace
    exact (hpart _ item).trans ((congrArg part htrace).trans (hpart _ item).symm)
  · have hname' : ¬ ∃ twin ∈ other.items, twin.id = name := by
      rintro ⟨twin, htwin, rfl⟩
      obtain ⟨item, htwins⟩ := hreorders.symm.exists_twin htwin
      exact hname ⟨item, htwins.mem', htwins.id_eq.symm⟩
    rw [hkept form state name hname, hkept other start name hname', hmap]

theorem matches_of_reorders :
    (form.runPass setting state trigger).1.Matches (other.runPass setting start trigger).1 where
  value? answer := (sameAt_of_reorders hreorders hlocal hstart answer).value?
  visibility := entries_of_reorders hreorders hlocal hstart (·.shown) (fun _ _ => rfl)
    (fun _ _ _ => visibility_of_no_item) hstart.visibility
  readOnly := entries_of_reorders hreorders hlocal hstart (·.locked) (fun _ _ => rfl)
    (fun _ _ _ => readOnly_of_no_item) hstart.readOnly
  choices := entries_of_reorders hreorders hlocal hstart (·.offers) (fun _ _ => rfl)
    (fun _ _ _ => choices_of_no_item) hstart.choices

theorem changedAnswers_perm : (form.runPass setting state trigger).2.changedAnswers.Perm
    (other.runPass setting start trigger).2.changedAnswers := by
  refine List.perm_iff_count.2 fun answer => ?_
  by_cases hholder : ∃ item ∈ form.items, item.answer? = some answer
  · obtain ⟨item, hitem, hanswer⟩ := hholder
    obtain ⟨twin, htwins⟩ := hreorders.exists_twin hitem
    have hwrites := congrArg Trace.writes (trace_of_twins hreorders hlocal hstart trigger htwins)
    rw [← htwins.trace_eq] at hwrites
    simp only [Pass.trace, hanswer, Option.elim_some] at hwrites
    exact hwrites
  · have hnot : answer ∉ (form.runPass setting state trigger).2.changedAnswers := by
      refine notMem_changedAnswers fun maker hmaker _ hproduced => ?_
      exact hholder ⟨maker, (mem_queue.1 hmaker).1, Item.answer?_of_produced? hproduced⟩
    have hnot' : answer ∉ (other.runPass setting start trigger).2.changedAnswers := fun hmem =>
      hnot ((sameAt_of_reorders hreorders hlocal hstart answer).changed.2 hmem)
    rw [List.count_eq_zero.2 hnot, List.count_eq_zero.2 hnot']

theorem evaluatedItems_perm : (form.runPass setting state trigger).2.evaluatedItems.Perm
    (other.runPass setting start trigger).2.evaluatedItems := by
  refine List.perm_iff_count.2 fun name => ?_
  by_cases hname : ∃ item ∈ form.items, item.id = name
  · obtain ⟨item, hitem, rfl⟩ := hname
    obtain ⟨twin, htwins⟩ := hreorders.exists_twin hitem
    have hruns := congrArg Trace.runs (trace_of_twins hreorders hlocal hstart trigger htwins)
    rw [← htwins.trace_eq] at hruns
    exact hruns
  · rw [count_evaluatedItems_of_no_item hname, count_evaluatedItems_of_no_item]
    rintro ⟨twin, htwin, hid⟩
    obtain ⟨item, htwins⟩ := hreorders.symm.exists_twin htwin
    exact hname ⟨item, htwins.mem', htwins.id_eq.symm.trans hid⟩

end

/-- The order in which items are declared does not matter. If two forms have the same items and their
rules are local, then passes from states with the same answers, flags and choices end in such states.
They report the same cycles, evaluate the same items and write the same answers, up to the order. -/
theorem runPass_reordered (form other : Form) (setting : Setting) (trigger : Trigger) (state start : State)
    (hreorders : (form.items.map (·.traits)).Perm (other.items.map (·.traits)))
    (hlocal : ∀ item ∈ form.items, ∀ rule ∈ item.derivedRules, rule.IsLocal setting)
    (hstart : state.Matches start) :
    let done := form.runPass setting state trigger
    let done' := other.runPass setting start trigger
    done.1.Matches done'.1 ∧
      (done.2.cycles.map List.toFinset).Perm (done'.2.cycles.map List.toFinset) ∧
      done.2.evaluatedItems.Perm done'.2.evaluatedItems ∧
      done.2.changedAnswers.Perm done'.2.changedAnswers := by
  intro done done'
  have hcycles : done.2.cycles.map List.toFinset = form.groups trigger :=
    congrArg (·.map List.toFinset) (runPass_writes form setting state trigger).1.cycles
  have hcycles' : done'.2.cycles.map List.toFinset = other.groups trigger :=
    congrArg (·.map List.toFinset) (runPass_writes other setting start trigger).1.cycles
  refine ⟨matches_of_reorders hreorders hlocal hstart, ?_, evaluatedItems_perm hreorders hlocal hstart,
    changedAnswers_perm hreorders hlocal hstart⟩
  rw [hcycles, hcycles']
  exact groups_perm hreorders

/-! ### A form to try -/

/-- The definition of `echo` with its items in the opposite order. -/
def echoBackDefinition : Definition where
  id := "echo"
  title := "Echo"
  version := "1"
  views := [{ id := "only", items := [
    { id := "c", kind := .text, visible := some ⟨"data.b", ["b"]⟩ },
    { id := "b", kind := .text, value := some ⟨"data.a", ["a"]⟩ },
    { id := "a", kind := .text }] }]

/-- The views of `echoBackDefinition`, with the rules parsed. -/
def echoBackViews : List View :=
  [⟨0, echoBackDefinition.views[0], none, none, [
    ⟨0, 0, echoBackDefinition.items[0],
      some ⟨⟨"data.b", .ok (.path .data [.field "b"])⟩, ["b"]⟩, none, none, none, [], [], none⟩,
    ⟨1, 0, echoBackDefinition.items[1], none, none,
      some ⟨⟨"data.a", .ok (.path .data [.field "a"])⟩, ["a"]⟩, none, [], [], none⟩,
    ⟨2, 0, echoBackDefinition.items[2], none, none, none, none, [], [], none⟩]⟩]

theorem echoBackViews_eq : echoBackViews = View.ofDefinitions 0 0 echoBackDefinition.views := by
  have ha : (Token.scan "data.a").toOption =
      some [⟨.ident "data", 0⟩, ⟨.dot, 4⟩, ⟨.ident "a", 5⟩] := by decide +kernel
  have hb : (Token.scan "data.b").toOption =
      some [⟨.ident "data", 0⟩, ⟨.dot, 4⟩, ⟨.ident "b", 5⟩] := by decide +kernel
  rw [echoBackViews, ← Expression.parse_field ha, ← Expression.parse_field hb]; rfl

def echoBack : Form where
  definition := echoBackDefinition
  sound := by decide
  views := echoBackViews
  views_eq := echoBackViews_eq
  items := _
  items_eq := rfl
  index := _
  index_eq := rfl

/-- An edit of `a` goes on to `b` and to `c`, in whatever order the three are declared. -/
theorem runPass_reordered_echo :
    let done := echo.runPass {} echoState (.changed ["a"])
    let done' := echoBack.runPass {} { echoState with currentView := "only" } (.changed ["a"])
    done.2.evaluatedItems = ["b", "c"] ∧ done.1.Matches done'.1 ∧
      done.2.evaluatedItems.Perm done'.2.evaluatedItems := by
  have hreorders : (echo.items.map (·.traits)).Perm (echoBack.items.map (·.traits)) :=
    (List.reverse_perm _).symm
  have hstart : echoState.Matches { echoState with currentView := "only" } := ⟨fun _ => rfl, rfl, rfl, rfl⟩
  obtain ⟨hmatches, -, hevaluated, -⟩ :=
    runPass_reordered echo echoBack {} (.changed ["a"]) _ _ hreorders echo_isLocal hstart
  exact ⟨by decide +kernel, hmatches, hevaluated⟩

end Form
end Formwork
