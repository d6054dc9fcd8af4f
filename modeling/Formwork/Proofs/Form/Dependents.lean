import Formwork.Proofs.Form.Items

/-!
# What depends on an answer

The index of a form is made from the definition, by one list of all slots; the rules that run are made from it
slot by slot. They say the same (`Form.index_agrees`): an item is a dependent of an answer in a slot if and only
if one of its rules for the slot lists the answer (`Definition.Item.Lists`). A dependent is added behind those
that are known, and only once, and the declarations come in the order of the definition
(`Definition.pairwise_declarations`), so the dependents of each answer do too.
-/

namespace Formwork

namespace Definition

/-- The order in which the rules of a view or an item are gone through. -/
def Slot.rank : Slot → Nat
  | .visible => 0
  | .readOnly => 1
  | .value => 2
  | .choices => 3
  | .nextView => 4
  | .validation => 5

theorem Slot.eq_of_rank {slot other : Slot} (h : slot.rank = other.rank) : slot = other := by
  cases slot <;> cases other <;> first | rfl | cases h

/-- Views come before items, both in the order of the definition, and the slots of one in their order. -/
inductive Dependent.Precedes : Dependent → Dependent → Prop
  | view {i j : Nat} {slot other : Slot} : i < j → Precedes (.view i slot) (.view j other)
  | viewSlot {i : Nat} {slot other : Slot} : slot.rank < other.rank → Precedes (.view i slot) (.view i other)
  | viewItem {i j : Nat} {slot other : Slot} : Precedes (.view i slot) (.item j other)
  | item {i j : Nat} {slot other : Slot} : i < j → Precedes (.item i slot) (.item j other)
  | itemSlot {i : Nat} {slot other : Slot} : slot.rank < other.rank → Precedes (.item i slot) (.item i other)

variable {item : Item} {view : View} {slot : Slot} {answer : String}

/-- A rule of an item that fills the slot declares the answer. -/
inductive Item.Lists (item : Item) (answer : String) : Slot → Prop
  | visible {rule : Rule} : item.visible = some rule → answer ∈ rule.dependsOn → Lists item answer .visible
  | readOnly {rule : Rule} : item.readOnly = some rule → answer ∈ rule.dependsOn → Lists item answer .readOnly
  | value {rule : Rule} : item.value = some rule → answer ∈ rule.dependsOn → Lists item answer .value
  | choices {rule : Rule} : item.choices = some rule → answer ∈ rule.dependsOn → Lists item answer .choices
  | choiceDisabled {choice : Choice} {rule : Rule} : choice ∈ item.options → choice.disabled = some rule →
    answer ∈ rule.dependsOn → Lists item answer .choices
  | choiceVisible {choice : Choice} {rule : Rule} : choice ∈ item.options → choice.visible = some rule →
    answer ∈ rule.dependsOn → Lists item answer .choices
  | nextView {rule : Rule} : item.nextView = some rule → answer ∈ rule.dependsOn → Lists item answer .nextView
  | validation {check : Check} : check ∈ item.validation → answer ∈ check.dependsOn →
    Lists item answer .validation

/-- A rule of a view that fills the slot declares the answer. -/
inductive View.Lists (view : View) (answer : String) : Slot → Prop
  | visible {rule : Rule} : view.visible = some rule → answer ∈ rule.dependsOn → Lists view answer .visible
  | nextView {rule : Rule} : view.nextView = some rule → answer ∈ rule.dependsOn → Lists view answer .nextView

/-! ### What is declared -/

theorem Item.lists_iff :
    item.Lists answer slot ↔ ∃ answers, (slot, answers) ∈ item.declarations ∧ answer ∈ answers := by
  simp only [declarations, List.mem_append, Rule.mem_declaration, List.mem_flatMap, List.mem_map, Prod.mk.injEq,
    Option.mem_def]
  constructor
  · intro h
    cases h with
    | visible h h' => exact ⟨_, .inl (.inl (.inl (.inl (.inl (.inl ⟨rfl, _, h, rfl⟩))))), h'⟩
    | readOnly h h' => exact ⟨_, .inl (.inl (.inl (.inl (.inl (.inr ⟨rfl, _, h, rfl⟩))))), h'⟩
    | value h h' => exact ⟨_, .inl (.inl (.inl (.inl (.inr ⟨rfl, _, h, rfl⟩)))), h'⟩
    | choices h h' => exact ⟨_, .inl (.inl (.inl (.inr ⟨rfl, _, h, rfl⟩))), h'⟩
    | choiceDisabled hc h h' => exact ⟨_, .inl (.inl (.inr ⟨_, hc, .inl ⟨rfl, _, h, rfl⟩⟩)), h'⟩
    | choiceVisible hc h h' => exact ⟨_, .inl (.inl (.inr ⟨_, hc, .inr ⟨rfl, _, h, rfl⟩⟩)), h'⟩
    | nextView h h' => exact ⟨_, .inl (.inr ⟨rfl, _, h, rfl⟩), h'⟩
    | validation h h' => exact ⟨_, .inr ⟨_, h, rfl, rfl⟩, h'⟩
  · rintro ⟨answers, (((((h | h) | h) | h) | ⟨choice, hchoice, h | h⟩) | h) | ⟨check, hcheck, h⟩, hanswer⟩
    · obtain ⟨rfl, rule, hrule, rfl⟩ := h; exact .visible hrule hanswer
    · obtain ⟨rfl, rule, hrule, rfl⟩ := h; exact .readOnly hrule hanswer
    · obtain ⟨rfl, rule, hrule, rfl⟩ := h; exact .value hrule hanswer
    · obtain ⟨rfl, rule, hrule, rfl⟩ := h; exact .choices hrule hanswer
    · obtain ⟨rfl, rule, hrule, rfl⟩ := h; exact .choiceDisabled hchoice hrule hanswer
    · obtain ⟨rfl, rule, hrule, rfl⟩ := h; exact .choiceVisible hchoice hrule hanswer
    · obtain ⟨rfl, rule, hrule, rfl⟩ := h; exact .nextView hrule hanswer
    · obtain ⟨rfl, rfl⟩ := h; exact .validation hcheck hanswer

theorem View.lists_iff :
    view.Lists answer slot ↔ ∃ answers, (slot, answers) ∈ view.declarations ∧ answer ∈ answers := by
  simp only [declarations, List.mem_append, Rule.mem_declaration, Option.mem_def]
  constructor
  · intro h
    cases h with
    | visible h h' => exact ⟨_, .inl ⟨rfl, _, h, rfl⟩, h'⟩
    | nextView h h' => exact ⟨_, .inr ⟨rfl, _, h, rfl⟩, h'⟩
  · rintro ⟨answers, h | h, hanswer⟩
    · obtain ⟨rfl, rule, hrule, rfl⟩ := h; exact .visible hrule hanswer
    · obtain ⟨rfl, rule, hrule, rfl⟩ := h; exact .nextView hrule hanswer

/-! ### The order of declarations -/

/-- The slots of some declarations come in their order, up to one of them. -/
structure Ranked (last : Slot) (entries : List (Slot × List String)) : Prop where
  ascending : entries.Pairwise fun entry other => entry.1.rank ≤ other.1.rank
  le_last : ∀ entry ∈ entries, entry.1.rank ≤ last.rank

namespace Ranked

variable {entries more : List (Slot × List String)} {last : Slot}

theorem nil : Ranked .visible [] := ⟨.nil, by simp⟩

theorem append (h : Ranked last entries) (hmore : ∀ entry ∈ more, entry.1 = slot) (hle : last.rank ≤ slot.rank) :
    Ranked slot (entries ++ more) := by
  refine ⟨List.pairwise_append.2 ⟨h.ascending, ?_, ?_⟩, ?_⟩
  · refine List.pairwise_of_forall_mem_list fun entry hentry other hother => ?_
    rw [hmore entry hentry, hmore other hother]
  · intro entry hentry other hother
    rw [hmore other hother]
    exact Nat.le_trans (h.le_last entry hentry) hle
  · intro entry hentry
    rcases List.mem_append.1 hentry with hentry | hentry
    · exact Nat.le_trans (h.le_last entry hentry) hle
    · rw [hmore entry hentry]

theorem rule (h : Ranked last entries) (rule : Option Rule) (hle : last.rank ≤ slot.rank) :
    Ranked slot (entries ++ Rule.declaration slot rule) :=
  h.append (fun _ hentry => (Rule.mem_declaration.1 hentry).1) hle

end Ranked

theorem Item.ranked_declarations (item : Item) : Ranked .validation item.declarations := by
  have hrules : Ranked .choices (Rule.declaration .visible item.visible ++
      Rule.declaration .readOnly item.readOnly ++ Rule.declaration .value item.value ++
      Rule.declaration .choices item.choices) :=
    (((Ranked.nil.rule item.visible (by decide)).rule item.readOnly (by decide)).rule item.value
      (by decide)).rule item.choices (by decide)
  have hoptions : ∀ entry ∈ item.options.flatMap (fun choice =>
      Rule.declaration .choices choice.disabled ++ Rule.declaration .choices choice.visible),
      entry.1 = .choices := by
    intro entry hentry
    obtain ⟨choice, -, hentry⟩ := List.mem_flatMap.1 hentry
    rcases List.mem_append.1 hentry with hentry | hentry
    · exact (Rule.mem_declaration.1 hentry).1
    · exact (Rule.mem_declaration.1 hentry).1
  have hchecks : ∀ entry ∈ item.validation.map (fun check => (Slot.validation, check.dependsOn)),
      entry.1 = .validation := by
    intro entry hentry
    obtain ⟨check, -, rfl⟩ := List.mem_map.1 hentry
    rfl
  exact ((hrules.append hoptions (by decide)).rule item.nextView (by decide)).append hchecks (by decide)

theorem View.ranked_declarations (view : View) : Ranked .nextView view.declarations :=
  (Ranked.nil.rule view.visible (by decide)).rule view.nextView (by decide)

/-- One place precedes another or is the same. -/
def Dependent.UpTo (place other : Dependent) : Prop := place.Precedes other ∨ place = other

/-- What is declared for the entries of a list comes in the order of the list. -/
theorem pairwise_places {α : Type} {place : Nat → Slot → Dependent} {declarations : α → List (Slot × List String)}
    {last : Slot} (hranked : ∀ a, Ranked last (declarations a))
    (hindex : ∀ {i j slot other}, i < j → (place i slot).Precedes (place j other))
    (hslot : ∀ {i slot other}, slot.rank < other.rank → (place i slot).Precedes (place i other))
    (entries : List α) :
    (entries.zipIdx.flatMap fun (a, i) =>
      (declarations a).map fun (slot, answers) => (place i slot, answers)).Pairwise
        fun entry other => entry.1.UpTo other.1 := by
  rw [List.pairwise_flatMap]
  constructor
  · rintro ⟨a, i⟩ -
    refine List.pairwise_map.2 ((hranked a).ascending.imp fun {entry other} hle => ?_)
    rcases Nat.lt_or_eq_of_le hle with hlt | heq
    · exact .inl (hslot hlt)
    · exact .inr (congrArg (place i) (Slot.eq_of_rank heq))
  · have hplaces : entries.zipIdx.Pairwise fun entry other => entry.2 < other.2 := by
      rw [← List.pairwise_map (f := Prod.snd) (R := (· < ·)), List.zipIdx_map_snd]
      exact List.pairwise_lt_range'
    refine hplaces.imp fun {entry other} hlt declared hdeclared declared' hdeclared' => ?_
    obtain ⟨_, -, rfl⟩ := List.mem_map.1 hdeclared
    obtain ⟨_, -, rfl⟩ := List.mem_map.1 hdeclared'
    exact .inl (hindex hlt)

/-- The declarations of a definition come in order. -/
theorem pairwise_declarations (definition : Definition) :
    definition.declarations.Pairwise fun entry other => entry.1.UpTo other.1 := by
  refine List.pairwise_append.2 ⟨?_, ?_, ?_⟩
  · exact pairwise_places View.ranked_declarations .view .viewSlot definition.views
  · exact pairwise_places Item.ranked_declarations .item .itemSlot definition.items
  · intro entry hentry other hother
    obtain ⟨⟨view, i⟩, -, hentry⟩ := List.mem_flatMap.1 hentry
    obtain ⟨⟨item, j⟩, -, hother⟩ := List.mem_flatMap.1 hother
    obtain ⟨_, -, rfl⟩ := List.mem_map.1 hentry
    obtain ⟨_, -, rfl⟩ := List.mem_map.1 hother
    exact .inl .viewItem

end Definition

/-! ### The order of the index -/

namespace DependencyIndex

open Definition (Dependent)

variable {index : DependencyIndex} {other : String}

/-- A place is added at the end, and only once. -/
theorem dependents_add (index : DependencyIndex) (answer other : String) (place : Dependent) :
    (index.add answer place).dependents other = index.dependents other ∨
    place ∉ index.dependents other ∧
      (index.add answer place).dependents other = index.dependents other ++ [place] := by
  have hadd : (index.add answer place).dependents other =
      if other = answer then
        if (index.dependents answer).contains place then index.dependents answer
        else index.dependents answer ++ [place]
      else index.dependents other := by
    simp only [dependents, add, NameMap.get?_insert]
    split <;> rfl
  rw [hadd]
  by_cases hother : other = answer
  · subst hother
    by_cases hknown : place ∈ index.dependents other
    · left; simp [hknown]
    · right; simp [hknown]
  · left; rw [if_neg hother]

theorem dependents_declare (index : DependencyIndex) (place : Dependent) (answers : List String) (other : String) :
    (index.declare (place, answers)).dependents other = index.dependents other ∨
    place ∉ index.dependents other ∧
      (index.declare (place, answers)).dependents other = index.dependents other ++ [place] := by
  refine List.foldlRecOn (motive := fun next : DependencyIndex =>
    next.dependents other = index.dependents other ∨
      place ∉ index.dependents other ∧ next.dependents other = index.dependents other ++ [place])
    answers _ (.inl rfl) fun next hnext answer _ => ?_
  rcases dependents_add next answer other place with hadd | ⟨hnot, hadd⟩
  · rw [hadd]; exact hnext
  · rcases hnext with hnext | ⟨-, hnext⟩
    · rw [hadd, hnext]; exact .inr ⟨hnext ▸ hnot, rfl⟩
    · exact absurd (by rw [hnext]; simp) hnot

/-- Declarations that come in order, behind all that the index holds, leave its lists in order. -/
theorem pairwise_declareAll {declarations : List (Dependent × List String)}
    (hordered : declarations.Pairwise fun entry other => entry.1.UpTo other.1)
    (hindex : (index.dependents other).Pairwise Dependent.Precedes)
    (hbehind : ∀ dependent ∈ index.dependents other, ∀ entry ∈ declarations, dependent.UpTo entry.1) :
    ((declarations.foldl declare index).dependents other).Pairwise Dependent.Precedes := by
  induction declarations generalizing index with
  | nil => exact hindex
  | cons entry rest ih =>
    obtain ⟨hfirst, hrest⟩ := List.pairwise_cons.1 hordered
    rw [List.foldl_cons]
    rcases dependents_declare index entry.1 entry.2 other with hsame | ⟨hnot, hadded⟩
    · refine ih hrest (hsame ▸ hindex) fun dependent hdependent later hlater => ?_
      exact hbehind dependent (hsame ▸ hdependent) later (List.mem_cons_of_mem _ hlater)
    · refine ih hrest ?_ fun dependent hdependent later hlater => ?_
      · rw [hadded]
        refine List.pairwise_append.2 ⟨hindex, List.pairwise_singleton _ _, ?_⟩
        intro dependent hdependent place hplace
        rw [List.mem_singleton.1 hplace]
        refine (hbehind dependent hdependent entry List.mem_cons_self).resolve_right fun heq => ?_
        exact hnot (heq ▸ hdependent)
      · rw [hadded] at hdependent
        rcases List.mem_append.1 hdependent with hdependent | hdependent
        · exact hbehind dependent hdependent later (List.mem_cons_of_mem _ hlater)
        · rw [List.mem_singleton.1 hdependent]
          exact hfirst later hlater

theorem pairwise_ofDefinition (definition : Definition) (answer : String) :
    ((ofDefinition definition).dependents answer).Pairwise Dependent.Precedes := by
  refine pairwise_declareAll definition.pairwise_declarations ?_ fun dependent hdependent => ?_
  · simp [dependents]
  · simp [dependents] at hdependent

/-! ### The index of a definition -/

variable {definition : Definition} {answer : String} {slot : Definition.Slot} {i : Nat}

theorem mem_dependents_item : .item i slot ∈ (ofDefinition definition).dependents answer ↔
    ∃ item, definition.items[i]? = some item ∧ item.Lists answer slot := by
  simp only [mem_dependents_ofDefinition, mem_declarations_item, Definition.Item.lists_iff]
  constructor
  · rintro ⟨answers, ⟨item, hitem, hslot⟩, hanswer⟩
    exact ⟨item, hitem, answers, hslot, hanswer⟩
  · rintro ⟨item, hitem, answers, hslot, hanswer⟩
    exact ⟨answers, ⟨item, hitem, hslot⟩, hanswer⟩

theorem mem_dependents_view : .view i slot ∈ (ofDefinition definition).dependents answer ↔
    ∃ view, definition.views[i]? = some view ∧ view.Lists answer slot := by
  simp only [mem_dependents_ofDefinition, mem_declarations_view, Definition.View.lists_iff]
  constructor
  · rintro ⟨answers, ⟨view, hview, hslot⟩, hanswer⟩
    exact ⟨view, hview, answers, hslot, hanswer⟩
  · rintro ⟨view, hview, answers, hslot, hanswer⟩
    exact ⟨answers, ⟨view, hview, hslot⟩, hanswer⟩

end DependencyIndex

namespace Form

open Definition (Dependent)

/-- The index of a form and its rules say the same about what depends on an answer. -/
theorem index_agrees (form : Form) (answer : String) :
    (∀ i, i ∈ form.index.dependentItems answer ↔
      ∃ item, form.items[i]? = some item ∧ answer ∈ item.derivedDependencies) ∧
    (∀ i slot, .item i slot ∈ form.index.dependents answer ↔
      ∃ item, form.definition.items[i]? = some item ∧ item.Lists answer slot) ∧
    (∀ i slot, .view i slot ∈ form.index.dependents answer ↔
      ∃ view, form.definition.views[i]? = some view ∧ view.Lists answer slot) ∧
    (form.index.dependents answer).Nodup ∧
    (form.index.dependents answer).Pairwise Dependent.Precedes := by
  have hordered : (form.index.dependents answer).Pairwise Dependent.Precedes := by
    rw [form.index_eq]
    exact DependencyIndex.pairwise_ofDefinition form.definition answer
  refine ⟨fun i => mem_dependentItems, fun i slot => ?_, fun i slot => ?_, ?_, hordered⟩
  · rw [form.index_eq]
    exact DependencyIndex.mem_dependents_item
  · rw [form.index_eq]
    exact DependencyIndex.mem_dependents_view
  · refine hordered.imp fun {place other} hprecedes heq => ?_
    subst heq
    cases hprecedes with
    | view h | viewSlot h | item h | itemSlot h => exact Nat.lt_irrefl _ h

end Form
end Formwork
