import Formwork.Proofs.Expr.Distinct

/-!
# How big a value is

An evaluation is charged for what it makes or copies before it hands it on: in full, or for a text made by
`+` without the slot that it takes. What it is not charged for takes a slot at most, or is a literal that
stands in the expression, or is the value of one of its parts. So no value is bigger than the memory limit by
more than a slot, unless a literal is (`Expr.yields_bounded`), whatever the answers are that it was made from.
-/

namespace Formwork

open Metered

namespace Json

theorem byteSize_ofArithmetic (x : Float) : (ofArithmetic x).byteSize = slotBytes := by
  rw [ofArithmetic]
  cases Number.ofArithmetic? x <;> rfl

theorem itemsByteSize_le_of_sublist {items more : List Json} (h : items.Sublist more) :
    itemsByteSize items ≤ itemsByteSize more := by
  induction h with
  | slnil => exact Nat.le_refl 0
  | cons item _ ih => exact Nat.le_trans ih (Nat.le_add_left _ _)
  | cons_cons item _ ih => exact Nat.add_le_add_left ih _

theorem byteSize_le_of_get? {fields : Fields Json} {name : String} {value : Json}
    (h : Fields.get? fields name = some value) : value.byteSize ≤ fieldsByteSize fields := by
  induction fields with
  | nil => cases h
  | cons field rest ih =>
    obtain ⟨key, first⟩ := field
    rw [fieldsByteSize]
    rw [Fields.get?, List.lookup_cons] at h
    split at h
    · cases h; omega
    · have := ih h; omega

end Json

namespace Expr

/-! ### Parts of an expression -/

/-- What an expression is made of directly, the keys in the segments of a path too. -/
def operands : Expr → List Expr
  | .literal _ => []
  | .path _ segments => segments.filterMap fun segment =>
    match segment with
    | .field _ => none
    | .index key => some key
  | .unary _ operand => [operand]
  | .binary _ left right | .logical _ left right => [left, right]
  | .conditional test yes no => [test, yes, no]
  | .call _ items | .array items => items

/-- An expression is another one, or stands in it at some depth. -/
inductive Contains (tree : Expr) : Expr → Prop
  | whole : Contains tree tree
  | operand {part operand : Expr} : Contains tree part → operand ∈ part.operands → Contains tree operand

theorem Contains.trans {tree part sub : Expr} (h : tree.Contains part) (h' : part.Contains sub) :
    tree.Contains sub := by
  induction h' with
  | whole => exact h
  | operand _ hoperand ih => exact ih.operand hoperand

end Expr

/-! ### What limits allow -/

/-- As far as bytes can be told apart, a value takes a slot more than the memory limit at most, or no more
than a literal of the expression. -/
def Limits.Bounds (limits : Limits) (tree : Expr) (value : Json) : Prop :=
  limits.maxMemoryBytes < maxBytes ∨ value.byteSize ≤ maxBytes →
    value.byteSize ≤ limits.maxMemoryBytes + Json.slotBytes ∨
      ∃ literal, tree.Contains (.literal literal) ∧ value.byteSize ≤ literal.byteSize

namespace Limits.Bounds

variable {limits : Limits} {tree part : Expr} {value smaller : Json}

theorem of_le (h : limits.maxMemoryBytes < maxBytes → value.byteSize ≤ limits.maxMemoryBytes + Json.slotBytes) :
    limits.Bounds tree value := by
  intro hcounted
  left
  by_cases hlimit : limits.maxMemoryBytes < maxBytes
  · exact h hlimit
  · have hvalue := hcounted.resolve_left hlimit
    omega

theorem slot (h : value.byteSize = Json.slotBytes) : limits.Bounds tree value :=
  of_le fun _ => by omega

theorem literal (value : Json) : limits.Bounds (.literal value) value :=
  fun _ => .inr ⟨value, .whole, Nat.le_refl _⟩

theorem within (h : limits.Bounds part value) (hpart : tree.Contains part) : limits.Bounds tree value := by
  intro hcounted
  rcases h hcounted with hle | ⟨literal, hliteral, hle⟩
  · exact .inl hle
  · exact .inr ⟨literal, hpart.trans hliteral, hle⟩

theorem shrink (h : limits.Bounds tree value) (hle : smaller.byteSize ≤ value.byteSize) :
    limits.Bounds tree smaller := by
  intro hcounted
  by_cases hlimit : limits.maxMemoryBytes < maxBytes
  · rcases h (.inl hlimit) with hvalue | ⟨literal, hliteral, hvalue⟩
    · exact .inl (Nat.le_trans hle hvalue)
    · exact .inr ⟨literal, hliteral, Nat.le_trans hle hvalue⟩
  · have hsmaller := hcounted.resolve_left hlimit
    exact .inl (by omega)

end Limits.Bounds

/-! ### Evaluations -/

namespace Metered

variable {limits : Limits} {clock : Clock} {tree : Expr} {value : Json} {bytes : Nat}

theorem Yields.imp {α : Type} {run : Metered limits clock α} {P Q : α → Prop} (h : run.Yields P)
    (himp : ∀ value, P value → Q value) : run.Yields Q :=
  fun spent value next hrun => himp value (h spent value next hrun)

/-- What has been charged for is within the limit. -/
theorem le_of_charge {spent next : Spent}
    (h : (Meter.charge bytes : Metered limits clock Unit) spent = .ok ((), next))
    (hlimit : limits.maxMemoryBytes < maxBytes) : bytes ≤ limits.maxMemoryBytes := by
  simp only [Meter.charge] at h
  split at h
  · omega
  · cases h

theorem yields_charged (h : value.byteSize ≤ bytes + Json.slotBytes) :
    Yields (do Meter.charge bytes; return value : Metered limits clock Json) (limits.Bounds tree) := by
  have hcharge : Yields (Meter.charge bytes : Metered limits clock Unit)
      fun _ => limits.maxMemoryBytes < maxBytes → bytes ≤ limits.maxMemoryBytes :=
    fun _ _ _ hcharge => le_of_charge hcharge
  refine yields_bind hcharge fun _ hbytes => yields_pure (.of_le fun hlimit => ?_)
  have := hbytes hlimit
  omega

end Metered

namespace Expr

variable {limits : Limits} {clock : Clock} {ctx : Context} {tree : Expr}

theorem yields_combine_bounded (op : BinaryOp) (a b : Json) :
    Yields (combine op a b : Metered limits clock Json) (limits.Bounds tree) := by
  cases op with
  | add =>
    simp only [combine]
    split
    · refine yields_charged ?_
      rw [Json.byteSize]; omega
    · exact yields_pure (.slot (Json.byteSize_ofArithmetic _))
  | div | rem =>
    simp only [combine]
    split
    · -- division by zero yields no value
      intro _ _ _ h
      cases h
    · exact yields_pure (.slot (Json.byteSize_ofArithmetic _))
  | sub | mul => exact yields_pure (.slot (Json.byteSize_ofArithmetic _))
  | eq | notEq | strictEq | strictNotEq | lt | le | gt | ge => exact yields_pure (.slot rfl)

theorem byteSize_lengthOf (value : Json) : (lengthOf value).byteSize = Json.slotBytes := by
  cases value <;> rfl

theorem yields_follow_bounded (current : Json) (segments : List Segment) :
    Yields (follow ctx current segments : Metered limits clock Json) (limits.Bounds tree) := by
  induction segments generalizing current with
  | nil =>
    simp only [follow]
    exact yields_charged (by omega)
  | cons segment rest ih =>
    simp only [follow]
    refine yields_of_next fun key => ?_
    split
    · exact ih _
    · refine yields_pure (.slot ?_)
      split
      · exact byteSize_lengthOf current
      · rfl

theorem yields_path_bounded (root : Root) (segments : List Segment) :
    Yields (eval ctx (.path root segments) : Metered limits clock Json) (limits.Bounds tree) := by
  cases root with
  | user | task =>
    simp only [eval]
    exact yields_of_next fun _ => yields_follow_bounded _ segments
  | data =>
    cases segments with
    | nil =>
      simp only [eval]
      exact yields_of_next fun _ => yields_charged (by omega)
    | cons first rest =>
      simp only [eval]
      refine yields_of_next fun _ => yields_of_next fun key => ?_
      split
      · exact yields_follow_bounded _ rest
      · refine yields_pure (.slot ?_)
        split <;> rfl

/-- The value of an expression is bounded by the memory limit and its literals. -/
theorem yields_bounded : ∀ tree : Expr, Yields (tree.eval ctx : Metered limits clock Json) (limits.Bounds tree)
  | .literal value => by
    simp only [eval]
    exact yields_of_next fun _ => yields_pure (.literal value)
  | .path root segments => yields_path_bounded root segments
  | .unary op operand => by
    simp only [eval]
    refine yields_of_next fun _ => yields_of_next fun value => yields_pure (.slot ?_)
    cases op with
    | not => rfl
    | negate => exact Json.byteSize_ofArithmetic _
  | .binary op left right => by
    simp only [eval]
    exact yields_of_next fun _ => yields_of_next fun a => yields_of_next fun b => yields_combine_bounded op a b
  | .logical op left right => by
    -- a logical operator hands on the value of a part, without a charge of its own
    have hleft : (logical op left right).Contains left := .operand .whole (by simp [operands])
    have hright : (logical op left right).Contains right := .operand .whole (by simp [operands])
    simp only [eval]
    refine yields_of_next fun _ => yields_bind (yields_bounded left) fun a ha => ?_
    split
    · exact yields_pure (ha.within hleft)
    · exact (yields_bounded right).imp fun _ hvalue => hvalue.within hright
  | .conditional test yes no => by
    have hyes : (conditional test yes no).Contains yes := .operand .whole (by simp [operands])
    have hno : (conditional test yes no).Contains no := .operand .whole (by simp [operands])
    simp only [eval]
    refine yields_of_next fun _ => yields_of_next fun value => ?_
    split
    · exact (yields_bounded yes).imp fun _ hvalue => hvalue.within hyes
    · exact (yields_bounded no).imp fun _ hvalue => hvalue.within hno
  | .call helper arguments => by
    simp only [eval]
    exact yields_of_next fun _ => yields_of_next fun values => yields_charged (by omega)
  | .array items => by
    simp only [eval]
    exact yields_of_next fun _ => yields_of_next fun values => yields_charged (by omega)

/-- So is the value of each of its parts, wherever the evaluation has got to. -/
theorem bounds_of_contains {part : Expr} {spent next : Spent} {value : Json} (hpart : tree.Contains part)
    (h : (part.eval ctx : Metered limits clock Json) spent = .ok (value, next)) : limits.Bounds tree value :=
  (yields_bounded part spent value next h).within hpart

end Expr

theorem Expression.bounds_of_evaluate {expression : Expression} {limits : Limits} {clock : Clock}
    {ctx : Context} {value : Json} (h : expression.evaluate limits clock ctx = .ok value) :
    ∃ tree, expression.tree = .ok tree ∧ limits.Bounds tree value := by
  rw [evaluate] at h
  split at h
  · cases h
  · rename_i tree htree
    exact ⟨tree, htree, yields_run (Expr.yields_bounded tree) h⟩

end Formwork
