import Mathlib.Data.Prod.Lex
import Mathlib.Order.WellFounded
import Formwork.Proofs.Expr.Reading

/-!
# The calls of the parser

The procedures of the parser call each other (`Calls`), always with fewer tokens left or for a lower part of
the grammar. So no chain of calls goes on for ever, and what holds of every procedure can be shown of one
call at a time, from the calls that it makes (`calls_wellFounded`).
-/

namespace Formwork

open Cursor

/-- The procedures of the parser, with what they are given besides the cursor. -/
inductive Procedure where
  | expression
  | conditional
  | logical (level : Nat)
  | chain (level : Nat) (left : Expr) (operators : Nat)
  | unary
  | operand
  | segments (tree : Expr)
  | primary
  | arguments (close : Token)
  | moreArguments (close : Token)

/-- A procedure that is called at a cursor. -/
structure Call where
  procedure : Procedure
  cursor : Cursor

namespace Procedure

/-- What a procedure yields. -/
def Value : Procedure → Type
  | .arguments _ | .moreArguments _ => List Expr
  | _ => Expr

/-- What a procedure reads at a cursor. -/
def read : (procedure : Procedure) → Cursor → Except ParseError (procedure.Value × Cursor)
  | .expression, c => Cursor.read (Cursor.expression c)
  | .conditional, c => Cursor.read (Cursor.conditional c)
  | .logical level, c => Cursor.read (Cursor.logical level c)
  | .chain level left operators, c => Cursor.read (Cursor.chain level left operators c)
  | .unary, c => Cursor.read (Cursor.unary c)
  | .operand, c => Cursor.read (Cursor.operand c)
  | .segments tree, c => Cursor.read (Cursor.segments tree c)
  | .primary, c => Cursor.read (Cursor.primary c)
  | .arguments close, c => Cursor.read (Cursor.arguments close c)
  | .moreArguments close, c => Cursor.read (Cursor.moreArguments close c)

/-- The place of a procedure among those that are called without passing over a token. -/
def rank : Procedure → Nat
  | .arguments _ => 8
  | .chain .. | .moreArguments _ => 7
  | .expression => 6
  | .conditional => 5
  | .logical _ => 4
  | .unary => 3
  | .operand => 2
  | .segments _ => 1
  | .primary => 0

end Procedure

/-- The calls that a procedure makes, each after those before it have succeeded. -/
inductive Calls : Call → Call → Prop
  | conditional {c : Cursor} : c.depth < maxNesting → Calls ⟨.expression, c⟩ ⟨.conditional, c.deeper⟩
  | test {c : Cursor} : Calls ⟨.conditional, c⟩ ⟨.logical 0, c⟩
  | yes {c c₁ : Cursor} {test : Expr} : read (logical 0 c) = .ok (test, c₁) → c₁.peek? = some .question →
    Calls ⟨.conditional, c⟩ ⟨.expression, c₁.advance⟩
  | no {c c₁ c₂ : Cursor} {test yes : Expr} : read (logical 0 c) = .ok (test, c₁) →
    c₁.peek? = some .question → read (expression c₁.advance) = .ok (yes, c₂) → c₂.peek? = some .colon →
    Calls ⟨.conditional, c⟩ ⟨.expression, c₂.advance⟩
  | left {level : Nat} {c : Cursor} : Calls ⟨.logical level, c⟩ ⟨.unary, c⟩
  | chain {level : Nat} {c c₁ : Cursor} {left : Expr} : read (unary c) = .ok (left, c₁) →
    Calls ⟨.logical level, c⟩ ⟨.chain level left 0, c₁⟩
  | right {level operators tightness : Nat} {left : Expr} {c : Cursor} {op : Joining} :
    c.peek?.bind Joining.ofToken? = some (tightness, op) → level ≤ tightness → c.depth < maxNesting →
    Calls ⟨.chain level left operators, c⟩ ⟨.logical (tightness + 1), c.advance.deeper⟩
  | joined {level operators tightness : Nat} {left right : Expr} {c c₁ : Cursor} {op : Joining} :
    c.peek?.bind Joining.ofToken? = some (tightness, op) → level ≤ tightness → c.depth < maxNesting →
    read (logical (tightness + 1) c.advance.deeper) = .ok (right, c₁) →
    Calls ⟨.chain level left operators, c⟩ ⟨.chain level (op.join left right) (operators + 1), c₁⟩
  | unary {c : Cursor} {op : UnaryOp} : Expr.unaryOp? c.peek? = some op → c.depth < maxNesting →
    Calls ⟨.unary, c⟩ ⟨.unary, c.advance.deeper⟩
  | operand {c : Cursor} : Expr.unaryOp? c.peek? = none → Calls ⟨.unary, c⟩ ⟨.operand, c⟩
  | primary {c : Cursor} : Calls ⟨.operand, c⟩ ⟨.primary, c⟩
  | segments {c c₁ : Cursor} {tree : Expr} : read (primary c) = .ok (tree, c₁) →
    Calls ⟨.operand, c⟩ ⟨.segments tree, c₁⟩
  | field {c : Cursor} {tree longer : Expr} {name : String} : c.peek? = some .dot →
    c.advance.peek? = some (.ident name) →
    Expr.extend c.advance.advance tree (.field name) = .ok longer →
    Calls ⟨.segments tree, c⟩ ⟨.segments longer, c.advance.advance⟩
  | key {c : Cursor} {tree : Expr} : c.peek? = some .leftBracket →
    Calls ⟨.segments tree, c⟩ ⟨.expression, c.advance⟩
  | index {c c₁ : Cursor} {tree key longer : Expr} : c.peek? = some .leftBracket →
    read (expression c.advance) = .ok (key, c₁) → c₁.peek? = some .rightBracket →
    Expr.extend c₁.advance tree (.index key) = .ok longer →
    Calls ⟨.segments tree, c⟩ ⟨.segments longer, c₁.advance⟩
  | parentheses {c : Cursor} : c.peek? = some .leftParen → Calls ⟨.primary, c⟩ ⟨.expression, c.advance⟩
  | items {c : Cursor} : c.peek? = some .leftBracket →
    Calls ⟨.primary, c⟩ ⟨.arguments .rightBracket, c.advance⟩
  | arguments {c : Cursor} {word : String} {helper : Helper} : c.peek? = some (.ident word) →
    Expr.literalWord? word = none → Expr.reservedWords.contains word = false → Root.ofName? word = none →
    c.advance.peek? = some .leftParen → Helper.ofName? word = some helper →
    Calls ⟨.primary, c⟩ ⟨.arguments .rightParen, c.advance.advance⟩
  | listed {c : Cursor} {close : Token} : c.peek? ≠ some close →
    Calls ⟨.arguments close, c⟩ ⟨.moreArguments close, c⟩
  | item {c : Cursor} {close : Token} : Calls ⟨.moreArguments close, c⟩ ⟨.expression, c⟩
  | more {c c₁ : Cursor} {close : Token} {item : Expr} : read (expression c) = .ok (item, c₁) →
    c₁.peek? ≠ some close → c₁.peek? = some .comma →
    Calls ⟨.moreArguments close, c⟩ ⟨.moreArguments close, c₁.advance⟩

namespace Cursor

variable {c c₁ : Cursor} {token : Token}

theorem size_advance_lt_of_bind {α : Type} {f : Token → Option α} {a : α} (h : c.peek?.bind f = some a) :
    c.advance.size < c.size := by
  obtain ⟨token, htoken, -⟩ := Option.bind_eq_some_iff.1 h
  exact c.size_advance_lt htoken

theorem size_advance_lt_of_unaryOp? {op : UnaryOp} (h : Expr.unaryOp? c.peek? = some op) :
    c.advance.size < c.size := by
  cases htoken : c.peek? with
  | none => rw [htoken] at h; cases h
  | some token => exact c.size_advance_lt htoken

end Cursor

/-- A call leaves fewer tokens, or it leaves as many and the procedure called comes before in rank. -/
theorem calls_decreases {outer inner : Call} (h : Calls outer inner) :
    Prod.Lex (· < ·) (· < ·) (inner.cursor.size, inner.procedure.rank)
      (outer.cursor.size, outer.procedure.rank) := by
  rw [Prod.lex_iff]
  cases h with
  | conditional _ | test | left | operand _ | primary | listed _ | item =>
    exact .inr ⟨rfl, by simp [Procedure.rank]⟩
  | yes hread hpeek =>
    have := size_lt_of_read hread
    have := Cursor.size_advance_lt hpeek
    exact .inl (by simp only; omega)
  | no hread hpeek hread₁ hpeek₁ =>
    have := size_lt_of_read hread
    have := Cursor.size_advance_lt hpeek
    have := size_lt_of_read hread₁
    have := Cursor.size_advance_lt hpeek₁
    exact .inl (by simp only; omega)
  | chain hread | segments hread => exact .inl (size_lt_of_read hread)
  | right hop _ _ => exact .inl (size_advance_lt_of_bind hop)
  | joined hop _ _ hread =>
    exact .inl (Nat.lt_trans (size_lt_of_read hread) (size_advance_lt_of_bind hop))
  | unary hop _ => exact .inl (size_advance_lt_of_unaryOp? hop)
  | field hdot _ _ => exact .inl (Nat.lt_of_le_of_lt (size_advance_le _) (Cursor.size_advance_lt hdot))
  | key hbracket | parentheses hbracket | items hbracket => exact .inl (Cursor.size_advance_lt hbracket)
  | index hbracket hread _ _ =>
    have hread := Nat.lt_trans (size_lt_of_read hread) (Cursor.size_advance_lt hbracket)
    exact .inl (Nat.lt_of_le_of_lt (size_advance_le _) hread)
  | arguments hword => exact .inl (Nat.lt_of_le_of_lt (size_advance_le _) (Cursor.size_advance_lt hword))
  | more hread _ hcomma =>
    exact .inl (Nat.lt_trans (Cursor.size_advance_lt hcomma) (size_lt_of_read hread))

/-- No chain of calls goes on for ever. -/
theorem calls_wellFounded : WellFounded fun inner outer => Calls outer inner :=
  Subrelation.wf (fun h => calls_decreases h)
    (InvImage.wf (fun call : Call => (call.cursor.size, call.procedure.rank))
      (WellFounded.prod_lex Nat.lt_wfRel.wf Nat.lt_wfRel.wf))

end Formwork
