import Formwork.Expr.Eval

/-!
# Evaluations under two meters

Two meters that agree on what they do themselves agree on every expression (`Meter.Related.eval`): an
evaluation goes through its tree in one way, whatever its meter.
-/

namespace Formwork

/-- Between evaluations under two meters: holds of what the meters do themselves, and is kept by
going on. -/
structure Meter.Related {m n : Type → Type} [Monad m] [Meter m] [Monad n] [Meter n]
    (R : (α : Type) → m α → n α → Prop) : Prop where
  pure {α : Type} (value : α) : R α (pure value) (pure value)
  bind {α β : Type} {x : m α} {y : n α} {f : α → m β} {g : α → n β} :
    R α x y → (∀ value, R β (f value) (g value)) → R β (x >>= f) (y >>= g)
  tick : R Unit (Meter.tick : m Unit) (Meter.tick : n Unit)
  charge (bytes : Nat) : R Unit (Meter.charge bytes : m Unit) (Meter.charge bytes : n Unit)
  divisionByZero {α : Type} : R α (Meter.divisionByZero : m α) (Meter.divisionByZero : n α)

namespace Meter.Related

variable {m n : Type → Type} [Monad m] [Meter m] [Monad n] [Meter n]
  {R : (α : Type) → m α → n α → Prop} (ctx : Context)

theorem ticked {α : Type} (h : Meter.Related R) {x : m α} {y : n α} (hxy : R α x y) :
    R α (do Meter.tick; x) (do Meter.tick; y) :=
  h.bind h.tick fun _ => hxy

theorem charged {α : Type} (h : Meter.Related R) (bytes : Nat) (value : α) :
    R α (do Meter.charge bytes; return value) (do Meter.charge bytes; return value) :=
  h.bind (h.charge bytes) fun _ => h.pure value

theorem combine (h : Meter.Related R) (op : BinaryOp) (a b : Json) :
    R Json (Expr.combine op a b : m Json) (Expr.combine op a b : n Json) := by
  cases op with
  | add =>
    simp only [Expr.combine]
    split
    · exact h.charged _ _
    · exact h.pure _
  | div | rem =>
    simp only [Expr.combine]
    split
    · exact h.divisionByZero
    · exact h.pure _
  | sub | mul | eq | notEq | strictEq | strictNotEq | lt | le | gt | ge => exact h.pure _

mutual

theorem eval (h : Meter.Related R) :
    ∀ tree : Expr, R Json (tree.eval ctx : m Json) (tree.eval ctx : n Json)
  | .literal value => by
    simp only [Expr.eval]
    exact h.ticked (h.pure value)
  | .path .data [] => by
    simp only [Expr.eval]
    exact h.ticked (h.charged _ _)
  | .path .data (first :: rest) => by
    simp only [Expr.eval]
    refine h.ticked (h.bind (segmentKey h first) fun key => ?_)
    split
    · exact follow h _ rest
    · exact h.pure _
  | .path .user segments => by
    simp only [Expr.eval]
    exact h.ticked (follow h _ segments)
  | .path .task segments => by
    simp only [Expr.eval]
    exact h.ticked (follow h _ segments)
  | .unary op operand => by
    simp only [Expr.eval]
    exact h.ticked (h.bind (eval h operand) fun value => h.pure _)
  | .binary op left right => by
    simp only [Expr.eval]
    exact h.ticked (h.bind (eval h left) fun a => h.bind (eval h right) fun b => h.combine op a b)
  | .logical op left right => by
    simp only [Expr.eval]
    refine h.ticked (h.bind (eval h left) fun a => ?_)
    split
    · exact h.pure _
    · exact eval h right
  | .conditional test yes no => by
    simp only [Expr.eval]
    refine h.ticked (h.bind (eval h test) fun value => ?_)
    split
    · exact eval h yes
    · exact eval h no
  | .call helper arguments => by
    simp only [Expr.eval]
    exact h.ticked (h.bind (evalAll h arguments) fun values => h.charged _ _)
  | .array items => by
    simp only [Expr.eval]
    exact h.ticked (h.bind (evalAll h items) fun values => h.charged _ _)

theorem evalAll (h : Meter.Related R) :
    ∀ trees : List Expr, R _ (Expr.evalAll ctx trees : m (List Json)) (Expr.evalAll ctx trees : n (List Json))
  | [] => by
    simp only [Expr.evalAll]
    exact h.pure _
  | first :: rest => by
    simp only [Expr.evalAll]
    exact h.bind (eval h first) fun value => h.bind (evalAll h rest) fun values => h.pure _

theorem segmentKey (h : Meter.Related R) :
    ∀ segment : Segment, R Json (Expr.segmentKey ctx segment : m Json) (Expr.segmentKey ctx segment : n Json)
  | .field name => by
    simp only [Expr.segmentKey]
    exact h.ticked (h.pure _)
  | .index key => by
    simp only [Expr.segmentKey]
    exact h.ticked (eval h key)

theorem follow (h : Meter.Related R) (current : Json) :
    ∀ segments : List Segment,
      R Json (Expr.follow ctx current segments : m Json) (Expr.follow ctx current segments : n Json)
  | [] => by
    simp only [Expr.follow]
    exact h.charged _ _
  | segment :: rest => by
    simp only [Expr.follow]
    refine h.bind (segmentKey h segment) fun key => ?_
    split
    · exact follow h _ rest
    · exact h.pure _

end

end Meter.Related

end Formwork
