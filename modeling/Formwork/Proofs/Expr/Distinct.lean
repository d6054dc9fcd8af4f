import Formwork.Proofs.Expr.Parse
import Formwork.Proofs.Json.Same

/-!
# What an expression makes

The only objects that an expression makes are choices, of two names. All else in its value is simple, or
part of what it reads. So where nothing that it reads names a field twice, its value does not
(`Expression.distinct_of_evaluate`).
-/

namespace Formwork

namespace Json

theorem distinct_ofArithmetic (x : Float) : (ofArithmetic x).Distinct := by
  rw [ofArithmetic]
  cases Number.ofArithmetic? x <;> trivial

end Json

/-! ### Helpers and operators -/

theorem Helper.distinct_concatenate {arguments : List Json} (h : ∀ value ∈ arguments, value.Distinct) :
    (concatenate arguments).Distinct := by
  unfold concatenate
  split
  · rename_i items rest
    obtain ⟨hitems, hrest⟩ := List.forall_mem_cons.1 h
    refine Json.distinctItems_iff.2 fun value hvalue => ?_
    rcases List.mem_append.1 hvalue with hvalue | hvalue
    · exact Json.distinctItems_iff.1 hitems value hvalue
    · obtain ⟨argument, hargument, hvalue⟩ := List.mem_flatMap.1 hvalue
      have hdistinct := hrest argument hargument
      split at hvalue
      · exact Json.distinctItems_iff.1 hdistinct value hvalue
      · cases hvalue
      · rwa [List.mem_singleton.1 hvalue]
  · trivial

theorem Helper.distinct_apply {helper : Helper} {arguments : List Json}
    (h : ∀ value ∈ arguments, value.Distinct) : (helper.apply arguments).Distinct := by
  have hfirst : (arguments.headD .null).Distinct := by
    cases arguments with
    | nil => trivial
    | cons first rest => exact h first List.mem_cons_self
  cases helper with
  | concat => exact distinct_concatenate h
  | choice => exact ⟨by simp [Fields.names], hfirst, trivial, trivial⟩
  | number | round | sum => exact Json.distinct_ofArithmetic _
  | contains | includes =>
    simp only [apply]
    split <;> trivial
  | min | max =>
    simp only [apply]
    split
    · trivial
    · exact Json.distinct_ofArithmetic _
  | len | lower | upper | trim | startsWith | endsWith | isEmpty | string => trivial

/-! ### Evaluations -/

/-- Whatever an evaluation is charged, all its values are of a kind. -/
def Metered.Yields {limits : Limits} {clock : Clock} {α : Type} (run : Metered limits clock α)
    (P : α → Prop) : Prop :=
  ∀ spent value next, run spent = .ok (value, next) → P value

namespace Metered

variable {limits : Limits} {clock : Clock} {α β : Type} {P : β → Prop} {Q : α → Prop}

theorem yields_pure {value : β} (h : P value) : Yields (pure value : Metered limits clock β) P := by
  intro spent value' next hrun
  cases hrun
  exact h

theorem yields_bind {run : Metered limits clock α} {next : α → Metered limits clock β} (hrun : run.Yields Q)
    (hnext : ∀ value, Q value → (next value).Yields P) : Yields (run >>= next) P := by
  intro spent value last h
  simp only [bind] at h
  split at h
  · cases h
  · rename_i first paid hfirst
    exact hnext first (hrun spent first paid hfirst) paid value last h

theorem yields_of_next {run : Metered limits clock α} {next : α → Metered limits clock β}
    (hnext : ∀ value, (next value).Yields P) : Yields (run >>= next) P :=
  yields_bind (Q := fun _ => True) (fun _ _ _ _ => trivial) fun value _ => hnext value

theorem yields_run {run : Metered limits clock β} (h : run.Yields P) {value : β} (hrun : run.run = .ok value) :
    P value := by
  rw [Metered.run] at hrun
  split at hrun
  · cases hrun
  · rename_i first spent hfirst
    cases hrun
    exact h _ _ _ hfirst

end Metered

/-- No object that an expression can read names a field twice. -/
structure Context.Distinct (ctx : Context) : Prop where
  data : (Json.obj ctx.data).Distinct
  user : ctx.user.Distinct
  task : ctx.task.Distinct

namespace Expr

open Metered Grammar

variable {limits : Limits} {clock : Clock} {ctx : Context} {tree : Expr} {value : Json}

theorem yields_combine (op : BinaryOp) (a b : Json) :
    Yields (combine op a b : Metered limits clock Json) Json.Distinct := by
  cases op with
  | add =>
    simp only [combine]
    split
    · exact yields_of_next fun _ => yields_pure trivial
    · exact yields_pure (Json.distinct_ofArithmetic _)
  | div | rem =>
    simp only [combine]
    split
    · exact fun _ _ _ h => nomatch h
    · exact yields_pure (Json.distinct_ofArithmetic _)
  | sub | mul => exact yields_pure (Json.distinct_ofArithmetic _)
  | eq | notEq | strictEq | strictNotEq | lt | le | gt | ge => exact yields_pure trivial

theorem distinct_member? {key next : Json} (h : value.Distinct) (hmember : member? value key = some next) :
    next.Distinct := by
  have hitem : ∀ {items : List Json} {place : Option Nat}, Json.DistinctItems items →
      (place.bind fun index => items[index]?) = some next → next.Distinct := by
    intro items place hitems hnext
    obtain ⟨index, -, hindex⟩ := Option.bind_eq_some_iff.1 hnext
    exact Json.distinctItems_iff.1 hitems next (List.mem_of_getElem? hindex)
  unfold member? at hmember
  split at hmember
  · exact hitem h hmember
  · exact hitem h hmember
  · exact Json.distinct_of_get? h.2 hmember
  · cases hmember

theorem distinct_lengthOf (value : Json) : (lengthOf value).Distinct := by
  cases value <;> trivial

theorem yields_follow {current : Json} {segments : List Segment} (h : current.Distinct) :
    Yields (follow ctx current segments : Metered limits clock Json) Json.Distinct := by
  induction segments generalizing current with
  | nil =>
    simp only [follow]
    exact yields_of_next fun _ => yields_pure h
  | cons segment rest ih =>
    simp only [follow]
    refine yields_of_next fun key => ?_
    split
    · rename_i next hnext
      exact ih (distinct_member? h hnext)
    · refine yields_pure ?_
      split
      · exact distinct_lengthOf current
      · trivial

theorem yields_path (h : ctx.Distinct) (root : Root) (segments : List Segment) :
    Yields (eval ctx (.path root segments) : Metered limits clock Json) Json.Distinct := by
  cases root with
  | user =>
    simp only [eval]
    exact yields_of_next fun _ => yields_follow h.user
  | task =>
    simp only [eval]
    exact yields_of_next fun _ => yields_follow h.task
  | data =>
    cases segments with
    | nil =>
      simp only [eval]
      exact yields_of_next fun _ => yields_of_next fun _ => yields_pure h.data
    | cons first rest =>
      simp only [eval]
      refine yields_of_next fun _ => yields_of_next fun key => ?_
      split
      · rename_i found hfound
        obtain ⟨name, -, hget⟩ := Option.bind_eq_some_iff.1 hfound
        exact yields_follow (Json.distinct_of_get? h.data.2 hget)
      · refine yields_pure ?_
        split <;> trivial

theorem yields_logical {op : LogicalOp} {left right : Expr}
    (hleft : Yields (left.eval ctx : Metered limits clock Json) Json.Distinct)
    (hright : Yields (right.eval ctx : Metered limits clock Json) Json.Distinct) :
    Yields (eval ctx (.logical op left right) : Metered limits clock Json) Json.Distinct := by
  simp only [eval]
  refine yields_of_next fun _ => yields_bind hleft fun a ha => ?_
  split
  · exact yields_pure ha
  · exact hright

theorem yields_evalAll {trees : List Expr}
    (h : ∀ tree ∈ trees, Yields (tree.eval ctx : Metered limits clock Json) Json.Distinct) :
    Yields (evalAll ctx trees : Metered limits clock (List Json))
      fun values => ∀ value ∈ values, value.Distinct := by
  induction trees with
  | nil =>
    simp only [evalAll]
    exact yields_pure (by simp)
  | cons first rest ih =>
    obtain ⟨hfirst, hrest⟩ := List.forall_mem_cons.1 h
    simp only [evalAll]
    exact yields_bind hfirst fun value hvalue => yields_bind (ih hrest) fun values hvalues =>
      yields_pure (List.forall_mem_cons.2 ⟨hvalue, hvalues⟩)

/-- The literals of the grammar are simple, so that a derived tree has only values without repeated
names. -/
theorem yields_of_derives {stratum : Stratum} {ts : List Token} (hctx : ctx.Distinct)
    (h : Derives stratum ts tree) : Yields (tree.eval ctx : Metered limits clock Json) Json.Distinct := by
  induction h with
  | conditional _ _ _ _ hyes hno =>
    simp only [eval]
    refine yields_of_next fun _ => yields_of_next fun value => ?_
    split
    · exact hyes
    · exact hno
  | joined hjoins _ _ hleft hright =>
    rename_i op _ _ left right _ _
    cases op with
    | logical op => exact yields_logical hleft hright
    | binary op =>
      simp only [Joining.join, eval]
      exact yields_of_next fun _ => yields_of_next fun a => yields_of_next fun b => yields_combine op a b
  | @unary _ op =>
    simp only [eval]
    refine yields_of_next fun _ => yields_of_next fun value => yields_pure ?_
    cases op with
    | not => trivial
    | negate => exact Json.distinct_ofArithmetic _
  | field | index | root => exact yields_path hctx _ _
  | number value =>
    simp only [eval]
    exact yields_of_next fun _ => yields_pure (Json.distinct_ofArithmetic value)
  | text text =>
    simp only [eval]
    exact yields_of_next fun _ => yields_pure trivial
  | constant hconstant =>
    simp only [eval]
    refine yields_of_next fun _ => yields_pure ?_
    cases hconstant <;> trivial
  | call helper items _ _ _ ih =>
    have hitems : ∀ tree ∈ items.map (·.2),
        Yields (tree.eval ctx : Metered limits clock Json) Json.Distinct := by
      intro tree htree
      obtain ⟨item, hitem, rfl⟩ := List.mem_map.1 htree
      exact ih item hitem
    simp only [eval]
    exact yields_of_next fun _ => yields_bind (yields_evalAll hitems) fun values hvalues =>
      yields_of_next fun _ => yields_pure (Helper.distinct_apply hvalues)
  | array items _ _ ih =>
    have hitems : ∀ tree ∈ items.map (·.2),
        Yields (tree.eval ctx : Metered limits clock Json) Json.Distinct := by
      intro tree htree
      obtain ⟨item, hitem, rfl⟩ := List.mem_map.1 htree
      exact ih item hitem
    simp only [eval]
    exact yields_of_next fun _ => yields_bind (yields_evalAll hitems) fun values hvalues =>
      yields_of_next fun _ => yields_pure (Json.distinctItems_iff.2 hvalues)
  | unconditional _ ih | tighter _ ih | single _ ih | bare _ ih | whole _ ih | parentheses _ ih => exact ih

end Expr

/-- The value of a rule names no field twice where nothing that the rule reads does. -/
theorem Expression.distinct_of_evaluate {source : String} {limits : Limits} {clock : Clock} {ctx : Context}
    {value : Json} (hctx : ctx.Distinct)
    (h : (Expression.parse source).evaluate limits clock ctx = .ok value) : value.Distinct := by
  rw [parse, evaluate] at h
  split at h
  · cases h
  · rename_i tree htree
    rw [Expr.parse] at htree
    split at htree
    · cases htree
    · exact Metered.yields_run (Expr.yields_of_derives hctx (Expr.derives_of_ofTokens htree)) h

end Formwork
