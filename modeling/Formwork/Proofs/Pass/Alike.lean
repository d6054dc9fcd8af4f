import Mathlib.Data.List.Forall2
import Formwork.Proofs.Pass.Slot

/-!
# Items that are alike

A slot sees its rule as a flag, which is false where the rule fails, or as a value, where `null` is as good
as none (`Form.asFlag`, `Form.asValue`). Items whose rules declare the same and are always taken for the same
have the same dependencies, are shown and locked alike, and come to the same values and offers
(`Form.Item.Alike`).
-/

namespace Formwork

namespace Form

/-! ### Rules that a slot cannot tell apart -/

/-- What a flag takes the outcome of its rule for. -/
def asFlag (outcome : Option Json) : Bool := outcome.any Json.truthy

/-- What a value or the choices take the outcome of their rule for. -/
def asValue (outcome : Option Json) : Option Json := outcome.filter (!·.isNull)

/-- Rules that declare the same answers, and whose outcomes are always taken for the same. -/
structure Rule.Alike {α : Type} (taken : Option Json → α) (setting : Setting) (rule other : Rule) : Prop where
  dependsOn : other.dependsOn = rule.dependsOn
  outcome : ∀ values,
    taken (setting.ask? values other.expression) = taken (setting.ask? values rule.expression)

structure Choice.Alike (setting : Setting) (choice other : Choice) : Prop where
  value : other.value = choice.value
  label : other.label = choice.label
  disabled : Option.Rel (Rule.Alike asFlag setting) choice.disabled other.disabled
  visible : Option.Rel (Rule.Alike asFlag setting) choice.visible other.visible

/-- Items whose slots no pass can tell apart. -/
structure Item.Alike (setting : Setting) (item other : Item) : Prop where
  index : other.index = item.index
  id : other.id = item.id
  answer? : other.answer? = item.answer?
  visible : Option.Rel (Rule.Alike asFlag setting) item.visible other.visible
  readOnly : Option.Rel (Rule.Alike asFlag setting) item.readOnly other.readOnly
  value : Option.Rel (Rule.Alike asValue setting) item.value other.value
  choices : Option.Rel (Rule.Alike asValue setting) item.choices other.choices
  options : List.Forall₂ (Choice.Alike setting) item.options other.options

variable {setting : Setting} {values : Fields Json}

namespace Rule.Alike

theorem refl {α : Type} (taken : Option Json → α) (setting : Setting) (rule : Rule) :
    rule.Alike taken setting rule := ⟨rfl, fun _ => rfl⟩

theorem rel_refl {α : Type} (taken : Option Json → α) (setting : Setting) (rule : Option Rule) :
    Option.Rel (Rule.Alike taken setting) rule rule := by
  cases rule with
  | none => exact .none
  | some rule => exact .some (.refl taken setting rule)

variable {α : Type} {taken : Option Json → α} {rule other : Option Rule}

theorem map_dependsOn (h : Option.Rel (Rule.Alike taken setting) rule other) :
    other.toList.map (·.dependsOn) = rule.toList.map (·.dependsOn) := by
  cases h with
  | none => rfl
  | some h => exact congrArg (fun answers => [answers]) h.dependsOn

theorem isSome_eq (h : Option.Rel (Rule.Alike taken setting) rule other) : other.isSome = rule.isSome := by
  cases h <;> rfl

theorem all_confirms (h : Option.Rel (Rule.Alike asFlag setting) rule other) :
    other.all (setting.confirms values ·.expression) = rule.all (setting.confirms values ·.expression) := by
  cases h with
  | none => rfl
  | some h => exact h.outcome values

theorem any_confirms (h : Option.Rel (Rule.Alike asFlag setting) rule other) :
    other.any (setting.confirms values ·.expression) = rule.any (setting.confirms values ·.expression) := by
  cases h with
  | none => rfl
  | some h => exact h.outcome values

theorem asValue_ask? (h : Option.Rel (Rule.Alike asValue setting) rule other) :
    asValue (other.bind (setting.ask? values ·.expression)) =
      asValue (rule.bind (setting.ask? values ·.expression)) := by
  cases h with
  | none => rfl
  | some h => exact h.outcome values

end Rule.Alike

namespace Choice.Alike

theorem refl (setting : Setting) (choice : Choice) : choice.Alike setting choice :=
  ⟨rfl, rfl, Rule.Alike.rel_refl asFlag setting _, Rule.Alike.rel_refl asFlag setting _⟩

variable {choices others : List Choice}

theorem map_dependsOn (h : List.Forall₂ (Choice.Alike setting) choices others) :
    (others.flatMap Choice.rules).map (·.dependsOn) = (choices.flatMap Choice.rules).map (·.dependsOn) := by
  induction h with
  | nil => rfl
  | cons h _ ih =>
    rw [List.flatMap_cons, List.flatMap_cons, List.map_append, List.map_append, ih, Choice.rules,
      Choice.rules, List.map_append, List.map_append, Rule.Alike.map_dependsOn h.disabled,
      Rule.Alike.map_dependsOn h.visible]

/-- The choice of a value is found at the same place. -/
theorem rel_find? (h : List.Forall₂ (Choice.Alike setting) choices others) (value : Json) :
    Option.Rel (Choice.Alike setting) (choices.find? (·.value == value)) (others.find? (·.value == value)) := by
  induction h with
  | nil => exact .none
  | cons h _ ih =>
    rw [List.find?_cons, List.find?_cons, h.value]
    split
    · exact .some h
    · exact ih

end Choice.Alike

end Form

/-- Candidates that are offered alike. -/
structure Candidate.Alike (setting : Setting) (candidate other : Candidate) : Prop where
  value : other.value = candidate.value
  label : other.label = candidate.label
  listed : Option.Rel (Form.Choice.Alike setting) candidate.listed other.listed

theorem Candidate.Alike.offer_eq {setting : Setting} {values : Fields Json} {candidate other : Candidate}
    (h : candidate.Alike setting other) : other.offer setting values = candidate.offer setting values := by
  obtain ⟨value, label, listed⟩ := candidate
  obtain ⟨value', label', listed'⟩ := other
  obtain ⟨rfl, rfl, hlisted⟩ := h
  cases hlisted with
  | none => rfl
  | some h =>
    simp only [offer, Option.bind_some, Form.Rule.Alike.any_confirms h.disabled,
      Form.Rule.Alike.all_confirms h.visible]

namespace Form.Item

variable {setting : Setting} {values : Fields Json} {item other : Item}

theorem candidatesOf?_asValue (item : Item) (yielded : Option Json) :
    item.candidatesOf? (asValue yielded) = item.candidatesOf? yielded := by
  cases yielded with
  | none => rfl
  | some value => cases value <;> rfl

namespace Alike

theorem refl (setting : Setting) (item : Item) : item.Alike setting item :=
  ⟨rfl, rfl, rfl, Rule.Alike.rel_refl asFlag setting _, Rule.Alike.rel_refl asFlag setting _,
    Rule.Alike.rel_refl asValue setting _, Rule.Alike.rel_refl asValue setting _,
    List.forall₂_same.2 fun choice _ => .refl setting choice⟩

variable (h : item.Alike setting other)
include h

/-! ### What they declare -/

theorem map_flagRules : other.flagRules.map (·.dependsOn) = item.flagRules.map (·.dependsOn) := by
  rw [flagRules, List.map_append, Rule.Alike.map_dependsOn h.visible, Rule.Alike.map_dependsOn h.readOnly,
    ← List.map_append, flagRules]

theorem map_choiceRules : other.choiceRules.map (·.dependsOn) = item.choiceRules.map (·.dependsOn) := by
  rw [choiceRules, List.map_append, Rule.Alike.map_dependsOn h.choices, Choice.Alike.map_dependsOn h.options,
    ← List.map_append, choiceRules]

theorem map_derivedRules : other.derivedRules.map (·.dependsOn) = item.derivedRules.map (·.dependsOn) := by
  rw [derivedRules, List.map_append, List.map_append, h.map_flagRules, Rule.Alike.map_dependsOn h.value,
    h.map_choiceRules, ← List.map_append, ← List.map_append, derivedRules]

theorem derivedDependencies_eq : other.derivedDependencies = item.derivedDependencies := by
  rw [derivedDependencies, List.flatMap_def, h.map_derivedRules, ← List.flatMap_def, derivedDependencies]

theorem choiceDependencies_eq : other.choiceDependencies = item.choiceDependencies := by
  rw [choiceDependencies, List.flatMap_def, h.map_choiceRules, ← List.flatMap_def, choiceDependencies]

theorem hasChoiceRules_eq : other.hasChoiceRules = item.hasChoiceRules := by
  rw [hasChoiceRules, ← List.isEmpty_map (f := fun rule : Rule => rule.dependsOn), h.map_choiceRules,
    List.isEmpty_map, hasChoiceRules]

theorem producesAnswer_eq : other.producesAnswer = item.producesAnswer := by
  rw [producesAnswer, h.answer?, Rule.Alike.isSome_eq h.value, h.hasChoiceRules_eq, producesAnswer]

theorem produced?_eq : other.produced? = item.produced? := by
  rw [produced?, h.producesAnswer_eq, h.answer?, produced?]

/-! ### What they come to -/

theorem shownIn_eq : other.shownIn setting values = item.shownIn setting values :=
  Rule.Alike.all_confirms h.visible

theorem lockedIn_eq : other.lockedIn setting values = item.lockedIn setting values :=
  Rule.Alike.any_confirms h.readOnly

theorem ruledIn?_eq : other.ruledIn? setting values = item.ruledIn? setting values :=
  Rule.Alike.asValue_ask? h.value

theorem candidates_alike : List.Forall₂ (Candidate.Alike setting) (item.candidates setting values)
    (other.candidates setting values) := by
  have hlisted : List.Forall₂ (Candidate.Alike setting)
      (item.options.map fun choice => ⟨choice.value, choice.label, some choice⟩)
      (other.options.map fun choice => ⟨choice.value, choice.label, some choice⟩) := by
    rw [List.forall₂_map_left_iff, List.forall₂_map_right_iff]
    exact h.options.imp fun choice other hchoice => ⟨hchoice.value, hchoice.label, .some hchoice⟩
  rw [candidates, candidates, ← other.candidatesOf?_asValue, Rule.Alike.asValue_ask? h.choices,
    ← item.candidatesOf?_asValue]
  generalize asValue _ = yielded
  unfold candidatesOf?
  split
  · rw [Option.getD_some, Option.getD_some, List.forall₂_map_left_iff, List.forall₂_map_right_iff]
    exact List.forall₂_same.2 fun entry _ => ⟨rfl, rfl, Choice.Alike.rel_find? h.options entry.1⟩
  · exact hlisted

theorem offersIn_eq : other.offersIn setting values = item.offersIn setting values := by
  rw [offersIn, offersIn]
  have hcandidates : List.Forall₂ (Candidate.Alike setting) (item.candidates setting values)
      (other.candidates setting values) := h.candidates_alike
  generalize item.candidates setting values = candidates at hcandidates
  generalize other.candidates setting values = others at hcandidates
  induction hcandidates with
  | nil => rfl
  | cons hcandidate _ ih => rw [List.map_cons, List.map_cons, hcandidate.offer_eq, ih]

end Alike
end Form.Item

end Formwork
