import Formwork.Proofs.Expr.Parse
import Formwork.Proofs.Pass.Order
import Formwork.Proofs.Pass.Step

/-!
# What a pass evaluates

A pass is followed from item to item (`passAfter`, with `runPass_eq` for its end). Between two places
of the queue it writes the answers of items that run there, are not frozen and have a rule for their
answer due (`passAfter_writes`). Such an item stands before those it feeds, so
when an item runs, no answer that it depends on is written any more (`exists_writes_settled`): it sees
the final answers, and it sees all that change (`has_changed_passAfter`).
-/

namespace Formwork.Form

open Definition (Slot)

variable {form : Form} {setting : Setting} {state : State} {trigger : Trigger} {item other : Item}
  {before middle after rest : List Item} {slot : Slot} {answer : String}

/-- A pass when some items have run. -/
def passAfter (form : Form) (setting : Setting) (state : State) (trigger : Trigger)
    (items : List Item) : Pass :=
  items.foldl (Pass.step setting trigger.isFull (form.schedule trigger))
    (form.openPass state trigger (form.schedule trigger))

theorem runPass_eq : form.runPass setting state trigger =
    ((form.passAfter setting state trigger (form.queue trigger)).state,
      (form.passAfter setting state trigger (form.queue trigger)).report) := rfl

theorem passAfter_concat : form.passAfter setting state trigger (before ++ [item]) =
    Pass.step setting trigger.isFull (form.schedule trigger)
      (form.passAfter setting state trigger before) item := by
  rw [passAfter, List.foldl_append]; rfl

/-- The answers that a pass starts with or writes. -/
def changes (form : Form) (setting : Setting) (state : State) (trigger : Trigger) : List String :=
  trigger.answers ++ (form.runPass setting state trigger).2.changedAnswers

/-! ### What is written -/

/-- Between two places of the queue, the answers are written of items that run there. -/
theorem passAfter_writes (setting : Setting) (state : State) (trigger : Trigger) (before : List Item)
    (h : ∀ item ∈ rest, item ∈ form.items) : ∃ answers,
    Pass.Writes answers (form.passAfter setting state trigger before)
      (form.passAfter setting state trigger (before ++ rest)) ∧
    ∀ a ∈ answers, ∃ middle item after, rest = middle ++ item :: after ∧
      form.freezes trigger item = false ∧ item.answer? = some a ∧
      (form.passAfter setting state trigger (before ++ middle)).Decides trigger.isFull item := by
  induction rest generalizing before with
  | nil => exact ⟨[], by rw [List.append_nil]; exact .refl _, by simp⟩
  | cons item rest ih =>
    obtain ⟨answers, hwrites, hall⟩ := Pass.step_writes setting trigger.isFull
      (form.schedule trigger) (form.passAfter setting state trigger before)
      (h item List.mem_cons_self)
    obtain ⟨more, hmore, hrest⟩ := ih (before ++ [item]) fun other hother =>
      h other (List.mem_cons_of_mem item hother)
    rw [passAfter_concat, List.append_assoc, List.singleton_append] at hmore
    refine ⟨answers ++ more, hwrites.trans hmore, fun a ha => ?_⟩
    rcases List.mem_append.1 ha with ha | ha
    · exact ⟨[], item, rest, rfl, (hall a ha).1, (hall a ha).2.1, by simpa using (hall a ha).2.2⟩
    · obtain ⟨middle, other, after, heq, hfree, hanswer, hdecides⟩ := hrest a ha
      rw [List.append_assoc] at hdecides
      exact ⟨item :: middle, other, after, by rw [heq]; rfl, hfree, hanswer, hdecides⟩

theorem produced?_of_decides {pass : Pass} {full : Bool} (hanswer : item.answer? = some answer)
    (h : pass.Decides full item) : item.produced? = some answer := by
  have hrules : item.value.isSome = true ∨ item.hasChoiceRules = true := by
    rcases h with h | h
    · have hne := Pass.rulesOf_ne_nil_of_due h
      rw [Item.rulesOf] at hne
      exact .inl (by cases hvalue : item.value <;> simp [hvalue] at hne ⊢)
    · exact .inr (Item.hasChoiceRules_iff.2 (Pass.rulesOf_ne_nil_of_due h))
  rw [Item.produced?, Item.producesAnswer, if_pos (by simpa [hanswer] using hrules), hanswer]

/-- From where an item runs, no answer is written that it depends on. -/
theorem exists_writes_settled (setting : Setting) (state : State)
    (h : form.queue trigger = before ++ item :: after) : ∃ answers,
    Pass.Writes answers (form.passAfter setting state trigger before)
      (form.passAfter setting state trigger (form.queue trigger)) ∧
    ∀ a ∈ item.derivedDependencies, a ∉ answers := by
  obtain ⟨answers, hwrites, hall⟩ := passAfter_writes setting state trigger before
    fun other (hother : other ∈ item :: after) =>
      (mem_queue.1 (h ▸ List.mem_append_right before hother)).1
  rw [← h] at hwrites
  refine ⟨answers, hwrites, fun a hdep ha => ?_⟩
  obtain ⟨middle, other, tail, heq, hfree, hanswer, hdecides⟩ := hall a ha
  have hother : other ∈ item :: after := heq ▸ List.mem_append_right middle List.mem_cons_self
  have hbefore : other ∈ before := mem_before_of_feeds h (h ▸ List.mem_append_right before hother)
    ⟨a, produced?_of_decides hanswer hdecides, hdep⟩ hfree
  exact (List.nodup_append.1 (h ▸ nodup_queue)).2.2 other hbefore other hother rfl

/-- A pass writes the answers that it lists: those of items that run, are not frozen and have a rule
for their answer due. -/
theorem runPass_writes (form : Form) (setting : Setting) (state : State) (trigger : Trigger) :
    Pass.Writes (form.runPass setting state trigger).2.changedAnswers
      (form.openPass state trigger (form.schedule trigger))
      (form.passAfter setting state trigger (form.queue trigger)) ∧
    ∀ a ∈ (form.runPass setting state trigger).2.changedAnswers,
      ∃ before item after, form.queue trigger = before ++ item :: after ∧
        form.freezes trigger item = false ∧ item.answer? = some a ∧
        (form.passAfter setting state trigger before).Decides trigger.isFull item := by
  obtain ⟨answers, hwrites, hall⟩ := passAfter_writes setting state trigger []
    fun item (hitem : item ∈ form.queue trigger) => (mem_queue.1 hitem).1
  rw [List.nil_append] at hwrites
  have hlisted : (form.runPass setting state trigger).2.changedAnswers = answers := hwrites.listed
  rw [hlisted]
  exact ⟨hwrites, hall⟩

theorem exists_writer (h : answer ∈ (form.runPass setting state trigger).2.changedAnswers) :
    ∃ before item after, form.queue trigger = before ++ item :: after ∧
      form.freezes trigger item = false ∧ item.answer? = some answer ∧
      (form.passAfter setting state trigger before).Decides trigger.isFull item :=
  (runPass_writes form setting state trigger).2 answer h

theorem has_changed_iff :
    (form.passAfter setting state trigger (form.queue trigger)).changed.has answer = true ↔
      answer ∈ form.changes setting state trigger := by
  rw [(runPass_writes form setting state trigger).1.changed, changes, List.mem_append]
  exact or_congr_left NameSet.has_ofNames

theorem value?_of_notMem_changedAnswers
    (h : answer ∉ (form.runPass setting state trigger).2.changedAnswers) :
    (form.runPass setting state trigger).1.value? answer = state.value? answer :=
  (runPass_writes form setting state trigger).1.kept answer h

/-! ### What an item sees -/

/-- Where an item runs, the answers that it depends on have their final values. -/
theorem value?_passAfter (h : form.queue trigger = before ++ item :: after)
    (hdep : answer ∈ item.derivedDependencies) :
    (form.passAfter setting state trigger before).state.value? answer =
      (form.runPass setting state trigger).1.value? answer := by
  obtain ⟨answers, hwrites, hsettled⟩ := exists_writes_settled setting state h
  exact (hwrites.kept answer (hsettled answer hdep)).symm

/-- Where an item runs, the answers that it depends on count as changed if they ever do. -/
theorem has_changed_passAfter (h : form.queue trigger = before ++ item :: after)
    (hdep : answer ∈ item.derivedDependencies) :
    (form.passAfter setting state trigger before).changed.has answer = true ↔
      answer ∈ form.changes setting state trigger := by
  obtain ⟨answers, hwrites, hsettled⟩ := exists_writes_settled setting state h
  rw [← has_changed_iff, hwrites.changed]
  exact (or_iff_left (hsettled answer hdep)).symm

/-- Where an item runs, a slot is due if its rules declare an answer that changes. -/
theorem isAnyDue_passAfter (h : form.queue trigger = before ++ item :: after) :
    (form.passAfter setting state trigger before).isAnyDue trigger.isFull (item.rulesOf slot) = true ↔
      trigger = .full ∧ item.rulesOf slot ≠ [] ∨
        ∃ answer ∈ item.declared slot, answer ∈ form.changes setting state trigger := by
  rw [Pass.isAnyDue_iff]
  refine or_congr (and_congr_left fun _ => ?_) (exists_congr fun a => and_congr_right fun ha => ?_)
  · cases trigger <;> simp [Trigger.isFull]
  · exact has_changed_passAfter h (Item.mem_derivedDependencies.2 ⟨slot, ha⟩)

theorem mem_affected_of_mem_changes {answers : List String} (hitem : item ∈ form.items)
    (hdep : answer ∈ item.derivedDependencies)
    (h : answer ∈ form.changes setting state (.changed answers)) : item.index ∈ form.affected answers := by
  rcases List.mem_append.1 h with h | h
  · exact mem_affected_of_declared hitem h hdep
  · obtain ⟨before, other, after, heq, -, hanswer, hdecides⟩ := exists_writer h
    exact mem_affected_of_feeds (mem_items_of_queue heq) hitem
      ⟨answer, produced?_of_decides hanswer hdecides, hdep⟩ (mem_candidates_of_queue heq)

theorem freezes_eq_false_iff (hitem : item ∈ form.items) : form.freezes trigger item = false ↔
    ∀ cycle ∈ (form.runPass setting state trigger).2.cycles, item.id ∉ cycle := by
  have hcycles : (form.runPass setting state trigger).2.cycles =
      (form.schedule trigger).cycles.map (·.map form.itemId) :=
    (runPass_writes form setting state trigger).1.cycles
  rw [hcycles, ← Bool.not_eq_true, freezes_iff hitem]
  exact ⟨fun h cycle hcycle hid => h ⟨cycle, hcycle, hid⟩, fun h ⟨cycle, hcycle, hid⟩ => h cycle hcycle hid⟩

/-- Whether a pass evaluates the rules of a slot of an item. The item runs, though only its flags and
only in a pass over all rules if it is frozen, and the rules are due where the slot runs. -/
def Evaluates (form : Form) (setting : Setting) (state : State) (trigger : Trigger) (item : Item)
    (slot : Slot) : Prop :=
  ∃ before after, form.queue trigger = before ++ item :: after ∧
    (form.freezes trigger item = true → trigger = .full ∧ (slot = .visible ∨ slot = .readOnly)) ∧
    (Pass.beforeSlot setting trigger.isFull (form.passAfter setting state trigger before) item
      slot).isAnyDue trigger.isFull (item.rulesOf slot) = true

/-- When answers change, a slot of an item that is not frozen is evaluated if and only if its rules
declare an answer that changes in the pass. -/
theorem evaluates_iff {answers : List String} (hitem : item ∈ form.items)
    (hfree : form.freezes (.changed answers) item = false) :
    form.Evaluates setting state (.changed answers) item slot ↔
      ∃ answer ∈ item.declared slot, answer ∈ form.changes setting state (.changed answers) := by
  constructor
  · rintro ⟨before, after, hqueue, -, hdue⟩
    rw [Pass.isAnyDue_beforeSlot hitem, isAnyDue_passAfter hqueue] at hdue
    exact hdue.resolve_left fun h => by cases h.1
  · rintro ⟨answer, hdeclared, hchanges⟩
    have hmem : item ∈ form.queue (.changed answers) := mem_queue.2 ⟨hitem,
      mem_affected_of_mem_changes hitem (Item.mem_derivedDependencies.2 ⟨slot, hdeclared⟩) hchanges⟩
    obtain ⟨before, after, hqueue⟩ := List.append_of_mem hmem
    refine ⟨before, after, hqueue, fun hfrozen => absurd hfrozen (by simp [hfree]), ?_⟩
    rw [Pass.isAnyDue_beforeSlot hitem, isAnyDue_passAfter hqueue]
    exact .inr ⟨answer, hdeclared, hchanges⟩

/-- When answers change, a slot that is not evaluated does nothing where it would run. -/
theorem runSlot_of_not_evaluates {answers : List String}
    (hqueue : form.queue (.changed answers) = before ++ item :: after)
    (hfree : form.freezes (.changed answers) item = false)
    (hnot : ¬ form.Evaluates setting state (.changed answers) item slot) :
    let pass := Pass.beforeSlot setting false (form.passAfter setting state (.changed answers) before) item slot
    Pass.runSlot setting false item slot pass = pass := by
  refine Pass.runSlot_of_not_due (Bool.eq_false_iff.2 fun hdue => hnot ⟨before, after, hqueue, ?_, hdue⟩)
  intro hfrozen
  rw [hfree] at hfrozen
  cases hfrozen

/-- No rule is missed and none runs early. Where an item runs, each answer that it depends on has its
final value and counts as changed if it is a change of the pass. So when answers change, the slots of
an item on no cycle are evaluated exactly on the changes, and no slot of an item that is not affected
declares a change. The slots of an item on no cycle that are not evaluated do nothing. -/
theorem evaluates_exactly_on_changes (form : Form) (setting : Setting) (state : State) :
    (∀ trigger before item after, form.queue trigger = before ++ item :: after →
      ∀ answer ∈ item.derivedDependencies,
        (form.passAfter setting state trigger before).state.value? answer =
          (form.runPass setting state trigger).1.value? answer ∧
        ((form.passAfter setting state trigger before).changed.has answer = true ↔
          answer ∈ form.changes setting state trigger)) ∧
    (∀ answers, ∀ item ∈ form.items,
      (∀ cycle ∈ (form.runPass setting state (.changed answers)).2.cycles, item.id ∉ cycle) →
      ∀ slot, form.Evaluates setting state (.changed answers) item slot ↔
        ∃ answer ∈ item.declared slot, answer ∈ form.changes setting state (.changed answers)) ∧
    (∀ answers, ∀ item ∈ form.items, item.index ∉ form.affected answers →
      ∀ slot, ∀ answer ∈ item.declared slot, answer ∉ form.changes setting state (.changed answers)) ∧
    ∀ answers before item after, form.queue (.changed answers) = before ++ item :: after →
      (∀ cycle ∈ (form.runPass setting state (.changed answers)).2.cycles, item.id ∉ cycle) →
      ∀ slot, ¬ form.Evaluates setting state (.changed answers) item slot →
        let earlier := form.passAfter setting state (.changed answers) before
        let pass := Pass.beforeSlot setting false earlier item slot
        Pass.runSlot setting false item slot pass = pass := by
  refine ⟨fun trigger before item after hqueue answer hdep => ?_, fun answers item hitem hcycles slot => ?_,
    fun answers item hitem hout slot answer hdeclared hchanges => ?_,
    fun answers before item after hqueue hcycles slot hnot => ?_⟩
  · exact ⟨value?_passAfter hqueue hdep, has_changed_passAfter hqueue hdep⟩
  · exact evaluates_iff hitem ((freezes_eq_false_iff hitem).2 hcycles)
  · exact hout (mem_affected_of_mem_changes hitem
      (Item.mem_derivedDependencies.2 ⟨slot, hdeclared⟩) hchanges)
  · have hitem := mem_items_of_queue hqueue
    exact runSlot_of_not_evaluates hqueue ((freezes_eq_false_iff hitem).2 hcycles) hnot

/-! ### A form to try -/

/-- The answer of `b` repeats that of `a`, and `c` is shown where `b` has one. -/
def echoDefinition : Definition where
  id := "echo"
  title := "Echo"
  version := "1"
  views := [{ id := "only", items := [
    { id := "a", kind := .text },
    { id := "b", kind := .text, value := some ⟨"data.a", ["a"]⟩ },
    { id := "c", kind := .text, visible := some ⟨"data.b", ["b"]⟩ }] }]

/-- The form of `echoDefinition`, with its rules parsed. -/
def echo : Form where
  definition := echoDefinition
  sound := by decide
  views := [⟨0, echoDefinition.views[0], none, none, [
    ⟨0, 0, echoDefinition.items[0], none, none, none, none, [], [], none⟩,
    ⟨1, 0, echoDefinition.items[1], none, none,
      some ⟨⟨"data.a", .ok (.path .data [.field "a"])⟩, ["a"]⟩, none, [], [], none⟩,
    ⟨2, 0, echoDefinition.items[2],
      some ⟨⟨"data.b", .ok (.path .data [.field "b"])⟩, ["b"]⟩, none, none, none, [], [], none⟩]⟩]
  views_eq := by
    have ha : (Token.scan "data.a").toOption =
        some [⟨.ident "data", 0⟩, ⟨.dot, 4⟩, ⟨.ident "a", 5⟩] := by decide +kernel
    have hb : (Token.scan "data.b").toOption =
        some [⟨.ident "data", 0⟩, ⟨.dot, 4⟩, ⟨.ident "b", 5⟩] := by decide +kernel
    rw [← Expression.parse_field ha, ← Expression.parse_field hb]; rfl
  items := _
  items_eq := rfl
  index := _
  index_eq := rfl

/-- A state of the form in which `a` has an answer. -/
def echoState : State := { values := [("a", .str "x")] }

/-- An edit of `a` makes `b` written, and so the rule of `c` is evaluated. -/
theorem evaluates_exactly_on_changes_echo :
    (∀ cycle ∈ (echo.runPass {} echoState (.changed ["a"])).2.cycles, "c" ∉ cycle) ∧
    echo.Evaluates {} echoState (.changed ["a"]) (echo.items.get ⟨2, by decide⟩) .visible := by
  refine ⟨by decide +kernel, ?_⟩
  refine ((evaluates_exactly_on_changes echo {} echoState).2.1 ["a"] _ (List.get_mem _ _)
    (by decide +kernel) .visible).2 ⟨"b", ?_, ?_⟩
  · decide +kernel
  · decide +kernel

end Formwork.Form
