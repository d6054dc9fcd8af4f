import Formwork.Proofs.Expr.Parse
import Formwork.Proofs.Form.Substitute
import Formwork.Proofs.Pass.Twins

/-!
# Rules that fail

A rule that fails is taken for what its place falls back to: a flag for false, a value or choices for none,
as `null` is. So a rule that fails whatever it reads can be replaced by that constant. The two forms differ in
one item only, and the items are alike, so that no pass can tell them apart
(`Form.failing_rule_as_constant`).
-/

namespace Formwork

open Definition (Place)

/-! ### The constants -/

/-- A text that is a constant has that value, unless it has none under the limits. -/
theorem Setting.ask?_constant {setting : Setting} {source : String} {value : Json}
    (h : Expression.parse source = ⟨source, .ok (.literal value)⟩) (values : Fields Json) :
    setting.ask? values (.parse source) = none ∨ setting.ask? values (.parse source) = some value := by
  rw [ask?, h]
  generalize setting.clock _ = clock
  simp only [Expression.evaluate, Expr.eval, Metered.run, bind, pure, Meter.tick]
  by_cases hsteps : setting.limits.maxSteps < 0 + 1
  · left
    simp only [if_pos hsteps, Except.toOption]
  · by_cases htime : setting.limits.timeBudget < clock 0
    · left
      simp only [if_neg hsteps, if_pos htime, Except.toOption]
    · right
      simp only [if_neg hsteps, if_neg htime, Except.toOption]

theorem parse_false : Expression.parse "false" = ⟨"false", .ok (.literal (.bool false))⟩ :=
  Expression.parse_constant (i := 0) (by decide +kernel) .no

theorem parse_null : Expression.parse "null" = ⟨"null", .ok (.literal .null)⟩ :=
  Expression.parse_constant (i := 0) (by decide +kernel) .null

namespace Form

variable {setting : Setting} {rule : Definition.Rule}

/-- A rule that has no value, whatever the answers. -/
def Fails (setting : Setting) (rule : Definition.Rule) : Prop :=
  ∀ values, setting.ask? values (.parse rule.expr) = none

theorem Fails.alike_false (h : Fails setting rule) :
    (Rule.ofDefinition rule).Alike asFlag setting (.ofDefinition (rule.withExpr "false")) := by
  refine ⟨rfl, fun values => ?_⟩
  show asFlag (setting.ask? values (.parse "false")) = asFlag (setting.ask? values (.parse rule.expr))
  rw [h values]
  rcases setting.ask?_constant parse_false values with hask | hask
  · rw [hask]
  · rw [hask]; rfl

theorem Fails.alike_null (h : Fails setting rule) :
    (Rule.ofDefinition rule).Alike asValue setting (.ofDefinition (rule.withExpr "null")) := by
  refine ⟨rfl, fun values => ?_⟩
  show asValue (setting.ask? values (.parse "null")) = asValue (setting.ask? values (.parse rule.expr))
  rw [h values]
  rcases setting.ask?_constant parse_null values with hask | hask
  · rw [hask]
  · rw [hask]; rfl

/-! ### Items with a constant for a rule -/

theorem forall₂_modify {α : Type} {R : α → α → Prop} (hrefl : ∀ a, R a a) {f : α → α} {list : List α} {i : Nat}
    (h : ∀ a, list[i]? = some a → R a (f a)) : List.Forall₂ R list (list.modify i f) := by
  induction list generalizing i with
  | nil => rw [List.modify_nil]; exact .nil
  | cons a list ih =>
    cases i with
    | zero => exact .cons (h a rfl) (List.forall₂_same.2 fun a _ => hrefl a)
    | succ i => exact .cons (hrefl a) (ih h)

theorem rel_of_fails {α : Type} {taken : Option Json → α} {expr : String} {given : Option Definition.Rule}
    (hgiven : given = some rule)
    (h : (Rule.ofDefinition rule).Alike taken setting (.ofDefinition (rule.withExpr expr))) :
    Option.Rel (Rule.Alike taken setting) (given.map Rule.ofDefinition)
      ((given.map (.withExpr expr)).map Rule.ofDefinition) := by
  rw [hgiven]
  exact .some h

theorem Choice.alike_modify {options : List Definition.Choice} {place : Nat}
    {f : Definition.Choice → Definition.Choice}
    (h : ∀ choice, options[place]? = some choice →
      (Choice.ofDefinition choice).Alike setting (.ofDefinition (f choice))) :
    List.Forall₂ (Choice.Alike setting) (options.map Choice.ofDefinition)
      ((options.modify place f).map Choice.ofDefinition) := by
  rw [List.forall₂_map_left_iff, List.forall₂_map_right_iff]
  exact forall₂_modify (fun choice => .refl setting (.ofDefinition choice)) h

/-- An item is like the one with the constant for a rule that fails. -/
theorem Item.alike_fallback {source : Definition.Item} {place : Place} (index view : Nat)
    (hrule : source.ruleAt? place = some rule) (h : Fails setting rule) :
    (Item.ofDefinition index view source).Alike setting
      (.ofDefinition index view (source.withExpr place place.fallback)) := by
  have hrefl := Item.Alike.refl setting (.ofDefinition index view source)
  cases place with
  | visible => exact { hrefl with visible := rel_of_fails hrule h.alike_false }
  | readOnly => exact { hrefl with readOnly := rel_of_fails hrule h.alike_false }
  | value => exact { hrefl with value := rel_of_fails hrule h.alike_null }
  | choices => exact { hrefl with choices := rel_of_fails hrule h.alike_null }
  | disabled place =>
    refine { hrefl with options := Choice.alike_modify fun choice hchoice => ?_ }
    have hgiven : choice.disabled = some rule := by rwa [Definition.Item.ruleAt?, hchoice] at hrule
    exact { Choice.Alike.refl setting (.ofDefinition choice) with disabled := rel_of_fails hgiven h.alike_false }
  | offered place =>
    refine { hrefl with options := Choice.alike_modify fun choice hchoice => ?_ }
    have hgiven : choice.visible = some rule := by rwa [Definition.Item.ruleAt?, hchoice] at hrule
    exact { Choice.Alike.refl setting (.ofDefinition choice) with visible := rel_of_fails hgiven h.alike_false }

/-! ### The two forms -/

/-- Wherever a rule of a form stands that fails in every context, the form with the constant of the place
instead can be made, and no pass over it ends or reports anything else, but for the count of failures. -/
theorem failing_rule_as_constant (form : Form) {source : Definition.Item} {place : Place} {limits : Limits}
    {clock : Expression → Clock} (hsource : source ∈ form.definition.items)
    (hrule : source.ruleAt? place = some rule)
    (hfails : ∀ ctx, ∃ error,
      (Expression.parse rule.expr).evaluate limits (clock (.parse rule.expr)) ctx = .error error) :
    ∃ other, load (form.definition.substitute source.id place place.fallback) = .ok other ∧
      ∀ user task state trigger,
        let setting : Setting := { user, task, limits, clock }
        let first := form.runPass setting state trigger
        let second := other.runPass setting state trigger
        second.1 = first.1 ∧ { second.2 with failedRules := 0 } = { first.2 with failedRules := 0 } := by
  obtain ⟨other, hload, hindex, hitems⟩ := form.exists_load_substitute source.id place place.fallback
  refine ⟨other, hload, fun user task state trigger => ?_⟩
  have hnone : Fails { user, task, limits, clock } rule := by
    intro values
    obtain ⟨error, herror⟩ := hfails ⟨values, user, task⟩
    rw [Setting.ask?, herror]; rfl
  have halike : form.Alike { user, task, limits, clock } other := by
    refine ⟨hindex, ?_⟩
    rw [hitems, List.forall₂_map_right_iff]
    refine List.forall₂_same.2 fun item hitem => ?_
    obtain ⟨-, hof⟩ := getElem?_items (getElem?_index hitem)
    rw [Item.remade]
    by_cases hid : item.source.id = source.id
    · have hsame : item.source = source :=
        List.inj_on_of_nodup_map (Definition.flaws_eq_nil_iff.1 form.sound).nodup_items (source_mem hitem)
          hsource hid
      have hfallback := Item.alike_fallback item.index item.view hrule hnone
      rw [hsame] at hof
      rw [if_pos hid, hsame]
      rwa [← hof] at hfallback
    · rw [if_neg hid, ← hof]
      exact .refl _ item
  exact halike.runPass_eq state trigger

/-! ### A rule that does not parse -/

/-- An expression that does not parse fails in every context. -/
theorem evaluate_of_unscanned {source : String} (h : (Token.scan source).toOption = none) (limits : Limits)
    (clock : Clock) (ctx : Context) :
    ∃ error, (Expression.parse source).evaluate limits clock ctx = .error error := by
  rw [Expression.evaluate, Expression.parse, Expr.parse]
  cases hscan : Token.scan source with
  | error error => exact ⟨.parse error, rfl⟩
  | ok placed => rw [hscan] at h; cases h

/-- The rule for the tax has a character that no expression has, and a note waits for the tax. -/
def invoiceDefinition : Definition where
  id := "invoice"
  title := "Invoice"
  version := "1"
  views := [{ id := "only", items := [
    { id := "price", kind := .number },
    { id := "tax", kind := .number, value := some ⟨"data.price # 5", ["price"]⟩ },
    { id := "note", kind := .text, visible := some ⟨"data.tax", ["tax"]⟩ }] }]

def invoice : Form where
  definition := invoiceDefinition
  sound := by decide
  views := _
  views_eq := rfl
  items := _
  items_eq := rfl
  index := _
  index_eq := rfl

/-- The tax may just as well be null. -/
theorem failing_rule_as_constant_tax :
    let rule : Definition.Rule := ⟨"data.price # 5", ["price"]⟩
    let tax : Definition.Item := { id := "tax", kind := .number, value := some rule }
    tax ∈ invoice.definition.items ∧ tax.ruleAt? .value = some rule ∧
      (∀ ctx, ∃ error, (Expression.parse rule.expr).evaluate {} .still ctx = .error error) ∧
      ∃ other, load (invoice.definition.substitute "tax" .value "null") = .ok other ∧
        ∀ user task state trigger,
          let setting : Setting := { user, task }
          let first := invoice.runPass setting state trigger
          let second := other.runPass setting state trigger
          second.1 = first.1 ∧ { second.2 with failedRules := 0 } = { first.2 with failedRules := 0 } := by
  intro rule tax
  have hmem : tax ∈ invoice.definition.items := .tail _ (.head _)
  have hunscanned : (Token.scan rule.expr).toOption = none := by decide +kernel
  have hrule : tax.ruleAt? .value = some rule := rfl
  have hfails := evaluate_of_unscanned hunscanned {} .still
  exact ⟨hmem, hrule, hfails,
    @failing_rule_as_constant rule invoice tax .value {} (fun _ => .still) hmem hrule hfails⟩

end Form
end Formwork
