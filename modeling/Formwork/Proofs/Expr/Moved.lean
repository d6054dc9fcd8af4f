import Formwork.Proofs.Expr.Calls
import Formwork.Proofs.Expr.Parse

/-!
# The parser does not look at positions

Where tokens stand decides nothing but the place of an error. If the tokens are moved, then every procedure
of the parser reads what it read before and leaves the moved cursor, or it fails with the same fault at the
moved position (`Call.moves`); so the same tree is parsed (`Expr.ofTokens_moved`).
-/

namespace Formwork

variable {f : Nat → Nat}

def Placed.moved (f : Nat → Nat) (placed : Placed) : Placed := ⟨placed.token, f placed.position⟩

def ParseError.moved (f : Nat → Nat) (error : ParseError) : ParseError := ⟨f error.position, error.fault⟩

namespace Cursor

/-- The same tokens at other positions. -/
def moved (f : Nat → Nat) (c : Cursor) : Cursor := ⟨c.rest.map (·.moved f), f c.stop, c.depth⟩

/-- What is read in the same tokens at other positions. -/
def movedResult {α : Type} (f : Nat → Nat) :
    Except ParseError (α × Cursor) → Except ParseError (α × Cursor)
  | .ok (value, next) => .ok (value, next.moved f)
  | .error error => .error (error.moved f)

variable {α β : Type} {c : Cursor}

@[simp] theorem depth_moved (c : Cursor) : (c.moved f).depth = c.depth := rfl

@[simp] theorem advance_moved (c : Cursor) : (c.moved f).advance = c.advance.moved f := by
  simp [moved, advance, List.map_tail]

@[simp] theorem peek?_moved (c : Cursor) : (c.moved f).peek? = c.peek? := by
  obtain ⟨rest, stop, depth⟩ := c
  cases rest <;> rfl

theorem fail_moved (c : Cursor) (fault : ParseFault) :
    (c.moved f).fail fault = movedResult (α := α) f (c.fail fault) := by
  obtain ⟨rest, stop, depth⟩ := c
  cases rest <;> rfl

/-- What is read one after the other is moved if each part of it is. -/
theorem movedResult_bind {x x' : Except ParseError (α × Cursor)}
    {g g' : α × Cursor → Except ParseError (β × Cursor)} (hx : x' = movedResult f x)
    (h : ∀ value next, x = .ok (value, next) →
      g' (value, next.moved f) = movedResult f (g (value, next))) :
    x' >>= g' = movedResult f (x >>= g) := by
  rw [hx]
  cases x with
  | error error => rfl
  | ok parsed => exact h parsed.1 parsed.2 rfl

end Cursor

/-- A call at moved tokens reads what the call reads. -/
def Call.Moves (f : Nat → Nat) (call : Call) : Prop := ∀ c, c = call.cursor.moved f →
  call.procedure.read c = Cursor.movedResult f (call.procedure.read call.cursor)

namespace Cursor

variable {c : Cursor}

theorem moves_expression (ih : ∀ inner, Calls ⟨.expression, c⟩ inner → inner.Moves f) :
    Call.Moves f ⟨.expression, c⟩ := by
  rintro _ rfl
  show read (expression (c.moved f)) = movedResult f (read (expression c))
  rw [read_expression, read_expression, depth_moved]
  split
  · rename_i hopen
    exact movedResult_bind (ih _ (.conditional hopen) _ rfl) fun _ _ _ => rfl
  · exact fail_moved c _

theorem moves_conditional (ih : ∀ inner, Calls ⟨.conditional, c⟩ inner → inner.Moves f) :
    Call.Moves f ⟨.conditional, c⟩ := by
  rintro _ rfl
  show read (conditional (c.moved f)) = movedResult f (read (conditional c))
  rw [read_conditional, read_conditional]
  refine movedResult_bind (ih _ .test _ rfl) fun test c₁ htest => ?_
  simp only [peek?_moved]
  split
  · rename_i hquestion
    refine movedResult_bind (ih _ (.yes htest hquestion) _ (advance_moved c₁)) fun yes c₂ hyes => ?_
    simp only [peek?_moved]
    split
    · rename_i hcolon
      exact movedResult_bind (ih _ (.no htest hquestion hyes hcolon) _ (advance_moved c₂)) fun _ _ _ => rfl
    · exact fail_moved c₂ _
  · rfl

theorem moves_logical {level : Nat} (ih : ∀ inner, Calls ⟨.logical level, c⟩ inner → inner.Moves f) :
    Call.Moves f ⟨.logical level, c⟩ := by
  rintro _ rfl
  show read (logical level (c.moved f)) = movedResult f (read (logical level c))
  rw [read_logical, read_logical]
  exact movedResult_bind (ih _ .left _ rfl) fun left c₁ hleft => ih _ (.chain hleft) _ rfl

theorem moves_chain {level : Nat} {left : Expr} {operators : Nat}
    (ih : ∀ inner, Calls ⟨.chain level left operators, c⟩ inner → inner.Moves f) :
    Call.Moves f ⟨.chain level left operators, c⟩ := by
  rintro _ rfl
  show read (chain level left operators (c.moved f)) = movedResult f (read (chain level left operators c))
  rw [read_chain, read_chain, peek?_moved, advance_moved, depth_moved]
  split
  · rename_i tightness op hop
    split
    · rename_i htight
      split
      · rename_i hopen
        exact movedResult_bind (ih _ (.right hop htight hopen) _ rfl) fun right c₁ hright =>
          ih _ (.joined hop htight hopen hright) _ rfl
      · exact fail_moved c.advance _
    · rfl
  · rfl

theorem moves_unary (ih : ∀ inner, Calls ⟨.unary, c⟩ inner → inner.Moves f) : Call.Moves f ⟨.unary, c⟩ := by
  rintro _ rfl
  show read (unary (c.moved f)) = movedResult f (read (unary c))
  rw [read_unary, c.read_unary, peek?_moved, advance_moved, depth_moved]
  split
  · rename_i op hop
    split
    · rename_i hopen
      exact movedResult_bind (ih _ (.unary hop hopen) _ rfl) fun _ _ _ => rfl
    · exact fail_moved c.advance _
  · rename_i hop
    exact ih _ (.operand hop) _ rfl

theorem moves_operand (ih : ∀ inner, Calls ⟨.operand, c⟩ inner → inner.Moves f) :
    Call.Moves f ⟨.operand, c⟩ := by
  rintro _ rfl
  show read (operand (c.moved f)) = movedResult f (read (operand c))
  rw [read_operand, read_operand]
  exact movedResult_bind (ih _ .primary _ rfl) fun first c₁ hfirst => ih _ (.segments hfirst) _ rfl

/-- A path and the segment behind it are put together before the rest is read. -/
theorem extend_bind_moved {tree : Expr} {segment : Segment}
    {g g' : Expr → Except ParseError (β × Cursor)}
    (h : ∀ longer, Expr.extend c tree segment = .ok longer → g' longer = movedResult f (g longer)) :
    Expr.extend (c.moved f) tree segment >>= g' = movedResult f (Expr.extend c tree segment >>= g) := by
  cases tree with
  | path root segments => exact h _ rfl
  | _ =>
    obtain ⟨rest, stop, depth⟩ := c
    cases rest <;> rfl

theorem moves_segments {tree : Expr} (ih : ∀ inner, Calls ⟨.segments tree, c⟩ inner → inner.Moves f) :
    Call.Moves f ⟨.segments tree, c⟩ := by
  rintro _ rfl
  show read (segments tree (c.moved f)) = movedResult f (read (segments tree c))
  rw [read_segments, read_segments, peek?_moved, advance_moved, advance_moved, peek?_moved]
  split
  · rename_i hdot
    split
    · rename_i name hname
      exact extend_bind_moved fun longer hlonger => ih _ (.field hdot hname hlonger) _ rfl
    · exact fail_moved c.advance.advance _
  · rename_i hbracket
    refine movedResult_bind (ih _ (.key hbracket) _ rfl) fun key c₁ hkey => ?_
    simp only [peek?_moved]
    split
    · rename_i hclose
      rw [advance_moved]
      exact extend_bind_moved fun longer hlonger => ih _ (.index hbracket hkey hclose hlonger) _ rfl
    · exact fail_moved c₁ _
  · exact fail_moved c _
  · rfl

theorem moves_primary (ih : ∀ inner, Calls ⟨.primary, c⟩ inner → inner.Moves f) :
    Call.Moves f ⟨.primary, c⟩ := by
  rintro _ rfl
  show read (primary (c.moved f)) = movedResult f (read (primary c))
  rw [read_primary, read_primary, peek?_moved, advance_moved, advance_moved, peek?_moved]
  split
  · rfl
  · rfl
  · rename_i hparen
    refine movedResult_bind (ih _ (.parentheses hparen) _ rfl) fun inner c₁ hinner => ?_
    simp only [peek?_moved, advance_moved]
    split
    · rfl
    · exact fail_moved c₁ _
  · rename_i hbracket
    refine movedResult_bind (ih _ (.items hbracket) _ rfl) fun items c₁ hitems => ?_
    simp only
    split
    · rfl
    · exact fail_moved c _
  · rename_i word hident
    split
    · rfl
    rename_i hliteral
    split
    · exact fail_moved c _
    rename_i hreserved
    split
    · rfl
    rename_i hroot
    split
    · rename_i hparen
      split
      · exact fail_moved c _
      · rename_i helper hhelper
        have hcall := Calls.arguments hident hliteral (Bool.eq_false_iff.2 hreserved) hroot hparen hhelper
        refine movedResult_bind (ih _ hcall _ rfl) fun items c₁ hitems => ?_
        simp only
        split
        · rfl
        · exact fail_moved c _
    · exact fail_moved c _
  · exact fail_moved c _

theorem moves_arguments {close : Token} (ih : ∀ inner, Calls ⟨.arguments close, c⟩ inner → inner.Moves f) :
    Call.Moves f ⟨.arguments close, c⟩ := by
  rintro _ rfl
  show read (arguments close (c.moved f)) = movedResult f (read (arguments close c))
  rw [read_arguments, read_arguments, peek?_moved, advance_moved]
  split
  · rfl
  · rename_i hclose
    exact ih _ (.listed hclose) _ rfl

theorem moves_moreArguments {close : Token}
    (ih : ∀ inner, Calls ⟨.moreArguments close, c⟩ inner → inner.Moves f) :
    Call.Moves f ⟨.moreArguments close, c⟩ := by
  rintro _ rfl
  show read (moreArguments close (c.moved f)) = movedResult f (read (moreArguments close c))
  rw [read_moreArguments, c.read_moreArguments]
  refine movedResult_bind (ih _ .item _ rfl) fun item c₁ hitem => ?_
  simp only [peek?_moved, advance_moved]
  split
  · rfl
  rename_i hclose
  split
  · rename_i hcomma
    exact movedResult_bind (ih _ (.more hitem hclose hcomma) _ (advance_moved c₁)) fun _ _ _ => rfl
  · exact fail_moved c₁ _

end Cursor

open Cursor in
/-- Every call reads the same in moved tokens. -/
theorem Call.moves (f : Nat → Nat) (call : Call) : call.Moves f := by
  induction call using calls_wellFounded.induction with
  | _ call ih =>
    obtain ⟨procedure, c⟩ := call
    cases procedure with
    | expression => exact moves_expression ih
    | conditional => exact moves_conditional ih
    | logical level => exact moves_logical ih
    | chain level left operators => exact moves_chain ih
    | unary => exact moves_unary ih
    | operand => exact moves_operand ih
    | segments tree => exact moves_segments ih
    | primary => exact moves_primary ih
    | arguments close => exact moves_arguments ih
    | moreArguments close => exact moves_moreArguments ih

/-- Moved tokens have the same tree or the same fault, at the moved position. -/
theorem Expr.ofTokens_moved (f : Nat → Nat) (placed : List Placed) (stop : Nat) :
    ofTokens (placed.map (·.moved f)) (f stop) = (ofTokens placed stop).mapError (·.moved f) := by
  have hread : Cursor.read (Cursor.expression ⟨placed.map (·.moved f), f stop, 0⟩) =
      Cursor.movedResult f (Cursor.read (Cursor.expression ⟨placed, stop, 0⟩)) :=
    Call.moves f ⟨.expression, ⟨placed, stop, 0⟩⟩ _ rfl
  rw [ofTokens_eq, ofTokens_eq, hread]
  cases Cursor.read (Cursor.expression ⟨placed, stop, 0⟩) with
  | error error => rfl
  | ok parsed =>
    obtain ⟨tree, ⟨rest, last, depth⟩⟩ := parsed
    cases rest <;> rfl

end Formwork
