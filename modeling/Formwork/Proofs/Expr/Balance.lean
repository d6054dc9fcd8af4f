import Formwork.Proofs.Expr.Calls
import Formwork.Proofs.Expr.Parse

/-!
# The parser closes what it opens

A procedure of the parser that succeeds has passed over tokens and leaves as many levels open as there were
(`Procedure.Balanced`). A chain of operators is the exception on the way: it opens a level for each operator
and closes them all at its end, so there its operators count as open. It follows that the levels that are
open at a call are those that the calls around it have opened (`Call.closes_levels`), whatever was read
before.
-/

namespace Formwork

open Cursor

namespace Procedure

/-- Whether a procedure goes on behind what was read already, so that there may be nothing left for it. -/
def goesOn : Procedure → Bool
  | .chain .. | .segments _ => true
  | _ => false

/-- How many levels were opened already for what a procedure goes on with. -/
def opened : Procedure → Nat
  | .chain _ _ operators => operators
  | _ => 0

/-- How many levels a procedure opens for another one that it calls. -/
def opens : Procedure → Procedure → Nat
  | .expression, .conditional | .chain .., .logical _ | .chain .., .chain .. | .unary, .unary => 1
  | _, _ => 0

/-- A procedure succeeds at a cursor and leaves another one. -/
def Leaves (procedure : Procedure) (c next : Cursor) : Prop := ∃ value, procedure.read c = .ok (value, next)

/-- The token at which a procedure stops, if it reads up to a certain one. -/
def closing? : Procedure → Option Token
  | .arguments close | .moreArguments close => some close
  | _ => none

/-- What holds of the cursor that a procedure leaves. -/
structure Balanced (procedure : Procedure) (c next : Cursor) : Prop where
  depth : next.depth + procedure.opened = c.depth
  stop : next.stop = c.stop
  rest : next.rest <:+ c.rest
  advance : procedure.goesOn = false → next.size < c.size
  close : ∀ close, procedure.closing? = some close →
    ∃ last, last.token = close ∧ last :: next.rest <:+ c.rest

/-- Unless it goes on with something, a procedure that succeeds has passed over a token. -/
theorem Leaves.size_lt {procedure : Procedure} {c next : Cursor} (h : procedure.Leaves c next)
    (hnew : procedure.goesOn = false) : next.size < c.size := by
  cases procedure with
  | chain => cases hnew
  | segments => cases hnew
  | _ => obtain ⟨_, hread⟩ := h; exact size_lt_of_read hread

/-- Where no certain token closes a procedure, this is left to be shown of it. -/
theorem Leaves.closed {procedure : Procedure} {c next : Cursor} (h : procedure.Leaves c next)
    (hclosing : procedure.closing? = none) (hdepth : next.depth + procedure.opened = c.depth)
    (hstop : next.stop = c.stop) (hrest : next.rest <:+ c.rest) : procedure.Balanced c next := by
  refine ⟨hdepth, hstop, hrest, h.size_lt, fun close hclose => ?_⟩
  rw [hclosing] at hclose
  cases hclose

end Procedure

/-! ### Balance -/

/-- Where a call succeeds, it leaves what `Procedure.Balanced` says. -/
def Call.Closes (call : Call) : Prop := call.procedure.opened ≤ call.cursor.depth →
  ∀ next, call.procedure.Leaves call.cursor next → call.procedure.Balanced call.cursor next

namespace Cursor

variable {c next : Cursor} {token : Token}

theorem rest_advance (c : Cursor) : c.advance.rest <:+ c.rest := List.tail_suffix c.rest

theorem exists_placed (h : c.peek? = some token) :
    ∃ placed, placed.token = token ∧ c.rest = placed :: c.advance.rest := by
  obtain ⟨rest, stop, depth⟩ := c
  cases rest with
  | nil => cases h
  | cons first rest => cases h; exact ⟨first, rfl, rfl⟩

theorem closes_expression (ih : ∀ inner, Calls ⟨.expression, c⟩ inner → inner.Closes) :
    Call.Closes ⟨.expression, c⟩ := by
  rintro - next hleaves
  obtain ⟨tree, h⟩ := show ∃ tree, read (expression c) = .ok (tree, next) from hleaves
  rw [read_expression] at h
  split at h
  · rename_i hopen
    obtain ⟨⟨tree, c₁⟩, hread, h⟩ := bind_eq_ok.1 h
    obtain ⟨hdepth, hstop, hrest, -, -⟩ := ih _ (.conditional hopen) (Nat.zero_le _) c₁ ⟨tree, hread⟩
    cases h
    have hdepth : c₁.depth = c.depth + 1 := hdepth
    refine hleaves.closed rfl ?_ hstop hrest
    show c₁.depth - 1 + 0 = c.depth
    omega
  · cases h

theorem closes_conditional (ih : ∀ inner, Calls ⟨.conditional, c⟩ inner → inner.Closes) :
    Call.Closes ⟨.conditional, c⟩ := by
  rintro - next hleaves
  obtain ⟨tree, h⟩ := show ∃ tree, read (conditional c) = .ok (tree, next) from hleaves
  rw [read_conditional] at h
  obtain ⟨⟨test, c₁⟩, htest, h⟩ := bind_eq_ok.1 h
  obtain ⟨hdepth₁, hstop₁, hrest₁, -, -⟩ := ih _ .test (Nat.zero_le _) c₁ ⟨test, htest⟩
  simp only at h
  split at h
  · rename_i hquestion
    obtain ⟨⟨yes, c₂⟩, hyes, h⟩ := bind_eq_ok.1 h
    obtain ⟨hdepth₂, hstop₂, hrest₂, -, -⟩ :=
      ih _ (.yes htest hquestion) (Nat.zero_le _) c₂ ⟨yes, hyes⟩
    simp only at h
    split at h
    · rename_i hcolon
      obtain ⟨⟨no, c₃⟩, hno, h⟩ := bind_eq_ok.1 h
      obtain ⟨hdepth₃, hstop₃, hrest₃, -, -⟩ :=
        ih _ (.no htest hquestion hyes hcolon) (Nat.zero_le _) c₃ ⟨no, hno⟩
      cases h
      exact hleaves.closed rfl (hdepth₃.trans (hdepth₂.trans hdepth₁)) (hstop₃.trans (hstop₂.trans hstop₁))
        (hrest₃.trans (c₂.rest_advance.trans (hrest₂.trans (c₁.rest_advance.trans hrest₁))))
    · cases h
  · cases h
    exact hleaves.closed rfl hdepth₁ hstop₁ hrest₁

theorem closes_logical {level : Nat} (ih : ∀ inner, Calls ⟨.logical level, c⟩ inner → inner.Closes) :
    Call.Closes ⟨.logical level, c⟩ := by
  rintro - next hleaves
  obtain ⟨tree, h⟩ := show ∃ tree, read (logical level c) = .ok (tree, next) from hleaves
  rw [read_logical] at h
  obtain ⟨⟨left, c₁⟩, hleft, h⟩ := bind_eq_ok.1 h
  obtain ⟨hdepth₁, hstop₁, hrest₁, -, -⟩ := ih _ .left (Nat.zero_le _) c₁ ⟨left, hleft⟩
  obtain ⟨hdepth₂, hstop₂, hrest₂, -, -⟩ := ih _ (.chain hleft) (Nat.zero_le _) next ⟨tree, h⟩
  exact hleaves.closed rfl (hdepth₂.trans hdepth₁) (hstop₂.trans hstop₁) (hrest₂.trans hrest₁)

theorem closes_chain {level : Nat} {left : Expr} {operators : Nat}
    (ih : ∀ inner, Calls ⟨.chain level left operators, c⟩ inner → inner.Closes) :
    Call.Closes ⟨.chain level left operators, c⟩ := by
  rintro (hopened : operators ≤ c.depth) next hleaves
  obtain ⟨tree, h⟩ := show ∃ tree, read (chain level left operators c) = .ok (tree, next) from hleaves
  have hend : (c.leave operators).depth + operators = c.depth := Nat.sub_add_cancel hopened
  rw [read_chain] at h
  split at h
  · rename_i tightness op hop
    split at h
    · rename_i hlevel
      split at h
      · rename_i hopen
        obtain ⟨⟨right, c₁⟩, hright, h⟩ := bind_eq_ok.1 h
        obtain ⟨hdepth₁, hstop₁, hrest₁, -, -⟩ :=
          ih _ (.right hop hlevel hopen) (Nat.zero_le _) c₁ ⟨right, hright⟩
        -- the operator counts as open from here on
        have hdepth₁ : c₁.depth = c.depth + 1 := hdepth₁
        have hopened₁ : operators + 1 ≤ c₁.depth := by omega
        obtain ⟨hdepth₂, hstop₂, hrest₂, -, -⟩ :=
          ih _ (.joined hop hlevel hopen hright) hopened₁ next ⟨tree, h⟩
        have hdepth₂ : next.depth + (operators + 1) = c₁.depth := hdepth₂
        refine hleaves.closed rfl ?_ (hstop₂.trans hstop₁) (hrest₂.trans (hrest₁.trans c.rest_advance))
        show next.depth + operators = c.depth
        omega
      · cases h
    · cases h; exact hleaves.closed rfl hend rfl List.suffix_rfl
  · cases h; exact hleaves.closed rfl hend rfl List.suffix_rfl

theorem closes_unary (ih : ∀ inner, Calls ⟨.unary, c⟩ inner → inner.Closes) :
    Call.Closes ⟨.unary, c⟩ := by
  rintro - next hleaves
  obtain ⟨tree, h⟩ := show ∃ tree, read (unary c) = .ok (tree, next) from hleaves
  rw [read_unary] at h
  split at h
  · rename_i op hop
    split at h
    · rename_i hopen
      obtain ⟨⟨tree, c₁⟩, hread, h⟩ := bind_eq_ok.1 h
      obtain ⟨hdepth, hstop, hrest, -, -⟩ := ih _ (.unary hop hopen) (Nat.zero_le _) c₁ ⟨tree, hread⟩
      cases h
      have hdepth : c₁.depth = c.depth + 1 := hdepth
      refine hleaves.closed rfl ?_ hstop (hrest.trans c.rest_advance)
      show c₁.depth - 1 + 0 = c.depth
      omega
    · cases h
  · rename_i hop
    obtain ⟨hdepth, hstop, hrest, -, -⟩ := ih _ (.operand hop) (Nat.zero_le _) next ⟨tree, h⟩
    exact hleaves.closed rfl hdepth hstop hrest

theorem closes_operand (ih : ∀ inner, Calls ⟨.operand, c⟩ inner → inner.Closes) :
    Call.Closes ⟨.operand, c⟩ := by
  rintro - next hleaves
  obtain ⟨tree, h⟩ := show ∃ tree, read (operand c) = .ok (tree, next) from hleaves
  rw [read_operand] at h
  obtain ⟨⟨first, c₁⟩, hfirst, h⟩ := bind_eq_ok.1 h
  obtain ⟨hdepth₁, hstop₁, hrest₁, -, -⟩ := ih _ .primary (Nat.zero_le _) c₁ ⟨first, hfirst⟩
  obtain ⟨hdepth₂, hstop₂, hrest₂, -, -⟩ := ih _ (.segments hfirst) (Nat.zero_le _) next ⟨tree, h⟩
  exact hleaves.closed rfl (hdepth₂.trans hdepth₁) (hstop₂.trans hstop₁) (hrest₂.trans hrest₁)

theorem closes_segments {tree : Expr} (ih : ∀ inner, Calls ⟨.segments tree, c⟩ inner → inner.Closes) :
    Call.Closes ⟨.segments tree, c⟩ := by
  rintro - next hleaves
  obtain ⟨last, h⟩ := show ∃ last, read (segments tree c) = .ok (last, next) from hleaves
  rw [read_segments] at h
  split at h
  · rename_i hdot
    split at h
    · rename_i name hname
      obtain ⟨longer, hlonger, h⟩ := bind_eq_ok.1 h
      obtain ⟨hdepth, hstop, hrest, -, -⟩ :=
        ih _ (.field hdot hname hlonger) (Nat.zero_le _) next ⟨last, h⟩
      exact hleaves.closed rfl hdepth hstop (hrest.trans (c.advance.rest_advance.trans c.rest_advance))
    · cases h
  · rename_i hbracket
    obtain ⟨⟨key, c₁⟩, hkey, h⟩ := bind_eq_ok.1 h
    obtain ⟨hdepth₁, hstop₁, hrest₁, -, -⟩ := ih _ (.key hbracket) (Nat.zero_le _) c₁ ⟨key, hkey⟩
    simp only at h
    split at h
    · rename_i hclose
      obtain ⟨longer, hlonger, h⟩ := bind_eq_ok.1 h
      obtain ⟨hdepth₂, hstop₂, hrest₂, -, -⟩ :=
        ih _ (.index hbracket hkey hclose hlonger) (Nat.zero_le _) next ⟨last, h⟩
      exact hleaves.closed rfl (hdepth₂.trans hdepth₁) (hstop₂.trans hstop₁)
        (hrest₂.trans (c₁.rest_advance.trans (hrest₁.trans c.rest_advance)))
    · cases h
  · cases h
  · cases h
    exact hleaves.closed rfl rfl rfl List.suffix_rfl

theorem closes_primary (ih : ∀ inner, Calls ⟨.primary, c⟩ inner → inner.Closes) :
    Call.Closes ⟨.primary, c⟩ := by
  rintro - next hleaves
  obtain ⟨tree, h⟩ := show ∃ tree, read (primary c) = .ok (tree, next) from hleaves
  rw [read_primary] at h
  split at h
  · cases h; exact hleaves.closed rfl rfl rfl c.rest_advance
  · cases h; exact hleaves.closed rfl rfl rfl c.rest_advance
  · rename_i hparen
    obtain ⟨⟨inner, c₁⟩, hinner, h⟩ := bind_eq_ok.1 h
    obtain ⟨hdepth, hstop, hrest, -, -⟩ := ih _ (.parentheses hparen) (Nat.zero_le _) c₁ ⟨inner, hinner⟩
    simp only at h
    split at h
    · cases h
      exact hleaves.closed rfl hdepth hstop (c₁.rest_advance.trans (hrest.trans c.rest_advance))
    · cases h
  · rename_i hbracket
    obtain ⟨⟨trees, c₁⟩, htrees, h⟩ := bind_eq_ok.1 h
    obtain ⟨hdepth, hstop, hrest, -, -⟩ := ih _ (.items hbracket) (Nat.zero_le _) c₁ ⟨trees, htrees⟩
    simp only at h
    split at h
    · cases h
      exact hleaves.closed rfl hdepth hstop (hrest.trans c.rest_advance)
    · cases h
  · rename_i word hident
    split at h
    · cases h; exact hleaves.closed rfl rfl rfl c.rest_advance
    rename_i hliteral
    split at h
    · cases h
    rename_i hreserved
    split at h
    · cases h; exact hleaves.closed rfl rfl rfl c.rest_advance
    rename_i hroot
    split at h
    · rename_i hparen
      split at h
      · cases h
      · rename_i helper hhelper
        obtain ⟨⟨trees, c₁⟩, htrees, h⟩ := bind_eq_ok.1 h
        have hcall := Calls.arguments hident hliteral (Bool.eq_false_iff.2 hreserved) hroot hparen hhelper
        obtain ⟨hdepth, hstop, hrest, -, -⟩ := ih _ hcall (Nat.zero_le _) c₁ ⟨trees, htrees⟩
        simp only at h
        split at h
        · cases h
          exact hleaves.closed rfl hdepth hstop (hrest.trans (c.advance.rest_advance.trans c.rest_advance))
        · cases h
    · cases h
  · cases h

theorem closes_arguments {close : Token} (ih : ∀ inner, Calls ⟨.arguments close, c⟩ inner → inner.Closes) :
    Call.Closes ⟨.arguments close, c⟩ := by
  rintro - next hleaves
  obtain ⟨trees, h⟩ := show ∃ trees, read (arguments close c) = .ok (trees, next) from hleaves
  rw [read_arguments] at h
  split at h
  · rename_i hclose
    obtain ⟨last, hlast, hrest⟩ := exists_placed hclose
    cases h
    refine ⟨rfl, rfl, c.rest_advance, hleaves.size_lt, fun close' hclose' => ?_⟩
    cases hclose'
    exact ⟨last, hlast, hrest ▸ List.suffix_rfl⟩
  · rename_i hclose
    obtain ⟨hdepth, hstop, hrest, -, hlast⟩ := ih _ (.listed hclose) (Nat.zero_le _) next ⟨trees, h⟩
    exact ⟨hdepth, hstop, hrest, hleaves.size_lt, hlast⟩

theorem closes_moreArguments {close : Token}
    (ih : ∀ inner, Calls ⟨.moreArguments close, c⟩ inner → inner.Closes) :
    Call.Closes ⟨.moreArguments close, c⟩ := by
  rintro - next hleaves
  obtain ⟨trees, h⟩ := show ∃ trees, read (moreArguments close c) = .ok (trees, next) from hleaves
  rw [read_moreArguments] at h
  obtain ⟨⟨item, c₁⟩, hitem, h⟩ := bind_eq_ok.1 h
  obtain ⟨hdepth₁, hstop₁, hrest₁, -, -⟩ := ih _ .item (Nat.zero_le _) c₁ ⟨item, hitem⟩
  simp only at h
  split at h
  · rename_i hclose
    obtain ⟨last, hlast, hrest⟩ := exists_placed hclose
    cases h
    refine ⟨hdepth₁, hstop₁, c₁.rest_advance.trans hrest₁, hleaves.size_lt, fun close' hclose' => ?_⟩
    cases hclose'
    exact ⟨last, hlast, hrest ▸ hrest₁⟩
  rename_i hclose
  split at h
  · rename_i hcomma
    obtain ⟨⟨items, c₂⟩, hitems, h⟩ := bind_eq_ok.1 h
    obtain ⟨hdepth₂, hstop₂, hrest₂, -, hlast⟩ :=
      ih _ (.more hitem hclose hcomma) (Nat.zero_le _) c₂ ⟨items, hitems⟩
    cases h
    have hbefore := c₁.rest_advance.trans hrest₁
    refine ⟨hdepth₂.trans hdepth₁, hstop₂.trans hstop₁, hrest₂.trans hbefore, hleaves.size_lt,
      fun close' hclose' => ?_⟩
    obtain ⟨last, htoken, hlast⟩ := hlast close' hclose'
    exact ⟨last, htoken, hlast.trans hbefore⟩
  · cases h

end Cursor

/-- Every call that succeeds closes the levels that it has opened. -/
theorem Call.closes (call : Call) : call.Closes := by
  induction call using calls_wellFounded.induction with
  | _ call ih =>
    obtain ⟨procedure, c⟩ := call
    cases procedure with
    | expression => exact closes_expression ih
    | conditional => exact closes_conditional ih
    | logical level => exact closes_logical ih
    | chain level left operators => exact closes_chain ih
    | unary => exact closes_unary ih
    | operand => exact closes_operand ih
    | segments tree => exact closes_segments ih
    | primary => exact closes_primary ih
    | arguments close => exact closes_arguments ih
    | moreArguments close => exact closes_moreArguments ih

/-! ### What is open at a call -/

namespace Procedure

theorem Leaves.balanced {procedure : Procedure} {c next : Cursor} (h : procedure.Leaves c next)
    (hopened : procedure.opened ≤ c.depth) : procedure.Balanced c next :=
  Call.closes ⟨procedure, c⟩ hopened next h

/-- Behind what was read as a whole as many levels are open as before it, and a rest of the tokens is left. -/
theorem Leaves.whole {procedure : Procedure} {c next : Cursor} (h : procedure.Leaves c next)
    (hwhole : procedure.opened = 0) : next.depth = c.depth ∧ next.rest <:+ c.rest := by
  have hbalanced := h.balanced (hwhole ▸ Nat.zero_le _)
  exact ⟨by rw [← hbalanced.depth, hwhole]; rfl, hbalanced.rest⟩

end Procedure

namespace Calls

open Procedure (Leaves)

variable {outer inner : Call}

/-- A procedure calls another one with the levels that are open for itself and those that it opens for the
other one, and with a rest of its tokens. -/
theorem depth_and_rest (h : Calls outer inner) :
    inner.cursor.depth = outer.cursor.depth + outer.procedure.opens inner.procedure ∧
      inner.cursor.rest <:+ outer.cursor.rest := by
  have hread : ∀ (procedure : Procedure) {c next : Cursor}, procedure.opened = 0 →
      procedure.Leaves c next → next.depth = c.depth ∧ next.rest <:+ c.rest :=
    fun _ _ _ hwhole h => h.whole hwhole
  cases h with
  | conditional | test | left | operand | primary | listed | item => exact ⟨rfl, List.suffix_rfl⟩
  | right | unary | key | parentheses | items => exact ⟨rfl, rest_advance _⟩
  | field | arguments => exact ⟨rfl, (rest_advance _).trans (rest_advance _)⟩
  | yes htest =>
    obtain ⟨hdepth, hrest⟩ := hread (.logical 0) rfl ⟨_, htest⟩
    exact ⟨hdepth, (rest_advance _).trans hrest⟩
  | no htest _ hyes =>
    obtain ⟨hdepth₁, hrest₁⟩ := hread (.logical 0) rfl ⟨_, htest⟩
    obtain ⟨hdepth₂, hrest₂⟩ := hread .expression rfl ⟨_, hyes⟩
    exact ⟨hdepth₂.trans hdepth₁, (rest_advance _).trans (hrest₂.trans ((rest_advance _).trans hrest₁))⟩
  | chain hleft => exact hread .unary rfl ⟨_, hleft⟩
  | segments hfirst => exact hread .primary rfl ⟨_, hfirst⟩
  | joined _ _ _ hright =>
    obtain ⟨hdepth, hrest⟩ := hread (.logical _) rfl ⟨_, hright⟩
    exact ⟨hdepth, hrest.trans (rest_advance _)⟩
  | index _ hkey =>
    obtain ⟨hdepth, hrest⟩ := hread .expression rfl ⟨_, hkey⟩
    exact ⟨hdepth, (rest_advance _).trans (hrest.trans (rest_advance _))⟩
  | more hitem =>
    obtain ⟨hdepth, hrest⟩ := hread .expression rfl ⟨_, hitem⟩
    exact ⟨hdepth, (rest_advance _).trans hrest⟩

/-- Of the levels that are open at a call, those of its chain are a part. -/
theorem opened_le (h : Calls outer inner) (hopened : outer.procedure.opened ≤ outer.cursor.depth) :
    inner.procedure.opened ≤ inner.cursor.depth := by
  have hdepth := h.depth_and_rest.1
  cases h with
  | joined => rw [hdepth]; exact Nat.succ_le_succ hopened
  | _ => exact Nat.zero_le _

/-- A level is opened only where one is free. -/
theorem depth_le (h : Calls outer inner) (hdepth : outer.cursor.depth ≤ maxNesting) :
    inner.cursor.depth ≤ maxNesting := by
  have heq := h.depth_and_rest.1
  rw [heq]
  cases h with
  | conditional hopen => exact hopen
  | right _ _ hopen | joined _ _ hopen _ | unary _ hopen => exact hopen
  | _ => exact hdepth

end Calls

/-- The calls that reading some tokens leads to, with how many levels were opened on the way. -/
inductive Call.Reached (placed : List Placed) (stop : Nat) : Nat → Call → Prop
  | start : Reached placed stop 0 ⟨.expression, ⟨placed, stop, 0⟩⟩
  | step {levels : Nat} {outer inner : Call} : Reached placed stop levels outer → Calls outer inner →
    Reached placed stop (levels + outer.procedure.opens inner.procedure) inner

namespace Call

variable {placed : List Placed} {stop levels : Nat} {call : Call}

theorem Reached.opened_le (h : call.Reached placed stop levels) :
    call.procedure.opened ≤ call.cursor.depth := by
  induction h with
  | start => exact Nat.le_refl 0
  | step _ hcall ih => exact hcall.opened_le ih

theorem Reached.depth_eq (h : call.Reached placed stop levels) : call.cursor.depth = levels := by
  induction h with
  | start => rfl
  | step _ hcall ih => rw [hcall.depth_and_rest.1, ih]

theorem Reached.depth_le (h : call.Reached placed stop levels) : call.cursor.depth ≤ maxNesting := by
  induction h with
  | start => exact Nat.zero_le _
  | step _ hcall ih => exact hcall.depth_le ih

theorem Reached.rest (h : call.Reached placed stop levels) : call.cursor.rest <:+ placed := by
  induction h with
  | start => exact List.suffix_rfl
  | step _ hcall ih => exact hcall.depth_and_rest.2.trans ih

/-- The parser closes what it opens. At every call that reading some tokens leads to, a rest of the tokens is
left, and just those levels are open that the calls around it have opened, at most as many as there are:
nothing that was read beside it takes a level away. If the call succeeds, it leaves as many levels open as
there were, or for the rest of a chain as many as there were before the chain, and it leaves a rest of its
tokens, which is shorter unless it only goes on with something; arguments are passed over up to and with the
closing token. And no chain of calls goes on for ever. -/
theorem closes_levels (h : call.Reached placed stop levels) :
    (call.cursor.depth = levels ∧ levels ≤ maxNesting ∧ call.cursor.rest <:+ placed) ∧
    (∀ next, call.procedure.Leaves call.cursor next → call.procedure.Balanced call.cursor next) ∧
    Acc (fun inner outer => Calls outer inner) call :=
  ⟨⟨h.depth_eq, h.depth_eq ▸ h.depth_le, h.rest⟩, fun _ hleaves => hleaves.balanced h.opened_le,
    calls_wellFounded.apply call⟩

open Grammar in
/-- The second element of `[null, null]` is read with the one level open that the list stands in, and
leaves it open. -/
theorem closes_levels_second : ∃ c next,
    Reached [⟨.leftBracket, 0⟩, ⟨.ident "null", 1⟩, ⟨.comma, 5⟩, ⟨.ident "null", 7⟩, ⟨.rightBracket, 11⟩]
      12 1 ⟨.expression, c⟩ ∧
      c.tokens = [.ident "null", .rightBracket] ∧ c.depth = 1 ∧
      read (Cursor.expression c) = .ok (.literal .null, next) ∧ next.depth = 1 := by
  have hnull : ∀ {c : Cursor} {rest : List Token}, c.tokens = .ident "null" :: rest → Ends rest →
      c.load < maxNesting →
        ∃ next, read (Cursor.expression c) = .ok (.literal .null, next) ∧ next.tokens = rest := by
    intro c rest htokens hends hload
    have hderives : Derives .expression [.ident "null"] (.literal .null) :=
      .unconditional ((Derives.whole (.constant .null)).bare.single.loosen (by decide))
    rcases complete hderives c rest htokens hends with ⟨hdeep, -⟩ | ⟨next, hread, hnext, -⟩
    · omega
    · exact ⟨next, hread, hnext⟩
  -- the list is met one level deep, and its first element is read there
  let list : Cursor := ⟨[⟨.leftBracket, 0⟩, ⟨.ident "null", 1⟩, ⟨.comma, 5⟩, ⟨.ident "null", 7⟩,
    ⟨.rightBracket, 11⟩], 12, 1⟩
  have hlist : Reached list.rest 12 1 ⟨.moreArguments .rightBracket, list.advance⟩ :=
    ((((((Reached.start.step (.conditional (by decide))).step .test).step .left).step (.operand rfl)).step
      .primary).step (.items rfl)).step (.listed nofun)
  obtain ⟨c₁, hfirst, htokens⟩ := @hnull list.advance _ rfl (Closing.ends (.inr (.inl rfl))) (by decide)
  obtain ⟨hcomma, hrest, hload⟩ := pass_token htokens
  have hsecond := (hlist.step (.more hfirst (by rw [hcomma]; exact nofun) hcomma)).step .item
  have hdepth : c₁.advance.depth = 1 := (closes_levels hsecond).1.1
  have hsize : c₁.advance.load < maxNesting := by
    have hlength := congrArg List.length hrest
    simp only [Cursor.tokens, List.length_map] at hlength
    show c₁.advance.depth + c₁.advance.rest.length < 256
    rw [hdepth, hlength]
    decide
  obtain ⟨next, hread, -⟩ := hnull hrest (Closing.ends (.inr (.inr (.inr rfl)))) hsize
  have hbalanced := (closes_levels hsecond).2.1 next ⟨_, hread⟩
  exact ⟨c₁.advance, next, hsecond, hrest, hdepth, hread, hbalanced.depth.trans hdepth⟩

end Call

end Formwork
