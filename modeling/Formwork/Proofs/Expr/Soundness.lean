import Formwork.Proofs.Expr.Grammar
import Formwork.Proofs.Expr.Reading

/-!
# What the parser reads is an expression

Each procedure of the parser leaves a rest of its tokens, and those before are of its stratum of the
grammar (`Cursor.Spans`). Of a chain of operators that is so because of what comes next: behind the right
part of an operator no operator is left that is tighter, so the left part is always of the level of the
next operator (`Cursor.spans_chain`).
-/

namespace Formwork

open Grammar

theorem Expr.extend_eq_ok {c : Cursor} {tree next : Expr} {segment : Segment}
    (h : extend c tree segment = .ok next) :
    ∃ root segments, tree = .path root segments ∧ next = .path root (segments ++ [segment]) := by
  cases tree with
  | path root segments => cases h; exact ⟨root, segments, rfl, rfl⟩
  | _ => cases h

theorem Root.name_of_ofName? {word : String} {root : Root} (h : ofName? word = some root) :
    root.name = word := by
  simpa using List.find?_some h

theorem Helper.name_of_ofName? {word : String} {helper : Helper} (h : ofName? word = some helper) :
    helper.name = word := by
  simpa using List.find?_some h

namespace Cursor

/-- The tokens between two cursors are of a stratum. -/
def Spans (c next : Cursor) (stratum : Stratum) (tree : Expr) : Prop :=
  ∃ ts, c.tokens = ts ++ next.tokens ∧ Derives stratum ts tree

/-- Some tokens and those between two cursors behind them are of a stratum. -/
def Extends (before : List Token) (c next : Cursor) (stratum : Stratum) (tree : Expr) : Prop :=
  ∃ ts, c.tokens = ts ++ next.tokens ∧ Derives stratum (before ++ ts) tree

/-- The tokens between two cursors are expressions between commas, and a closing token. -/
def Lists (c next : Cursor) (close : Token) (trees : List Expr) : Prop :=
  ∃ items, c.tokens = separated items ++ close :: next.tokens ∧
    (∀ item ∈ items, Derives .expression item.1 item.2) ∧ trees = items.map (·.2)

/-- The next token is no operator of a level or of a tighter one. -/
def Below (c : Cursor) (level : Nat) : Prop :=
  ∀ n op, c.peek?.bind Joining.ofToken? = some (n, op) → n < level

theorem below_nine (c : Cursor) : c.Below 9 := fun n op hop => by
  obtain ⟨token, -, htoken⟩ := Option.bind_eq_some_iff.1 hop
  exact Nat.lt_of_le_of_lt (joins_iff.2 htoken).bounds.2 (by decide)

mutual

theorem spans_expression (c : Cursor) {next : Cursor} {tree : Expr}
    (h : read (expression c) = .ok (tree, next)) :
    c.Spans next .expression tree := by
  rw [read_expression] at h
  split at h
  · obtain ⟨⟨tree, c₁⟩, hread, h⟩ := bind_eq_ok.1 h
    obtain ⟨ts, htokens, hderives⟩ := spans_conditional c.deeper hread
    cases h
    exact ⟨ts, htokens, hderives⟩
  · cases h
termination_by (c.size, 6)

theorem spans_conditional (c : Cursor) {next : Cursor} {tree : Expr}
    (h : read (conditional c) = .ok (tree, next)) :
    c.Spans next .expression tree := by
  rw [read_conditional] at h
  obtain ⟨⟨test, c₁⟩, htest, h⟩ := bind_eq_ok.1 h
  have hsize := size_lt_of_read htest
  obtain ⟨⟨ts, htokens, hderives⟩, -⟩ := spans_logical 0 c (Nat.zero_le 8) htest
  simp only at h
  split at h
  · rename_i hquestion
    have hadvance := c₁.size_advance_lt hquestion
    obtain ⟨⟨yes, c₂⟩, hyes, h⟩ := bind_eq_ok.1 h
    have hsize₂ := size_lt_of_read hyes
    obtain ⟨us, htokens₁, hderives₁⟩ := spans_expression c₁.advance hyes
    simp only at h
    split at h
    · rename_i hcolon
      have hadvance₂ := c₂.size_advance_lt hcolon
      obtain ⟨⟨no, c₃⟩, hno, h⟩ := bind_eq_ok.1 h
      obtain ⟨vs, htokens₂, hderives₂⟩ := spans_expression c₂.advance hno
      cases h
      refine ⟨ts ++ .question :: us ++ .colon :: vs, ?_, hderives.first_level.conditional hderives₁ hderives₂⟩
      rw [htokens, tokens_advance hquestion, htokens₁, tokens_advance hcolon, htokens₂]
      simp
    · cases h
  · cases h
    exact ⟨ts, htokens, .unconditional hderives.first_level⟩
termination_by (c.size, 5)

theorem spans_logical (level : Nat) (c : Cursor) {next : Cursor} {tree : Expr} (hlevel : level ≤ 8)
    (h : read (logical level c) = .ok (tree, next)) :
    c.Spans next (.level level) tree ∧ next.Below level := by
  rw [read_logical] at h
  obtain ⟨⟨left, c₁⟩, hleft, h⟩ := bind_eq_ok.1 h
  have hsize := size_lt_of_read hleft
  obtain ⟨ts, htokens, hderives⟩ := spans_unary c hleft
  obtain ⟨⟨us, htokens₁, hderives₁⟩, hbelow⟩ :=
    spans_chain level left 0 c₁ ts 8 (.single hderives) hlevel c₁.below_nine h
  exact ⟨⟨ts ++ us, by rw [htokens, htokens₁, List.append_assoc], hderives₁⟩, hbelow⟩
termination_by (c.size, 4)

theorem spans_chain (level : Nat) (left : Expr) (operators : Nat) (c : Cursor) {next : Cursor} {tree : Expr}
    (before : List Token) (n : Nat) (hleft : Derives (.level n) before left) (hlevel : level ≤ n)
    (hnext : c.Below (n + 1)) (h : read (chain level left operators c) = .ok (tree, next)) :
    Extends before c next (.level level) tree ∧ next.Below level := by
  have hend : Extends before c (c.leave operators) (.level level) left :=
    ⟨[], rfl, by rw [List.append_nil]; exact hleft.loosen hlevel⟩
  rw [read_chain] at h
  split at h
  · rename_i tightness op hop
    obtain ⟨token, htoken, hjoins⟩ := Option.bind_eq_some_iff.1 hop
    have hadvance := c.size_advance_lt htoken
    split at h
    · rename_i hle
      split at h
      · obtain ⟨⟨right, c₁⟩, hright, h⟩ := bind_eq_ok.1 h
        have hsize : c₁.size < c.advance.size := size_lt_of_read hright
        have hjoins := joins_iff.2 hjoins
        -- The left part is of the level of this operator too, since nothing tighter follows it; and
        -- behind the right part, which takes all that is tighter, the same holds of this level.
        have htight := Nat.le_of_lt_succ (hnext tightness op hop)
        obtain ⟨⟨ts, htokens, hderives⟩, hbelow⟩ :=
          spans_logical (tightness + 1) c.advance.deeper (Nat.succ_le_succ hjoins.bounds.2) hright
        obtain ⟨⟨us, htokens₁, hderives₁⟩, hlast⟩ :=
          spans_chain level (op.join left right) (operators + 1) c₁ (before ++ token :: ts) tightness
            (.joined hjoins (hleft.loosen htight) hderives) hle hbelow h
        refine ⟨⟨token :: ts ++ us, ?_, by simpa using hderives₁⟩, hlast⟩
        rw [tokens_advance htoken, ← tokens_deeper, htokens, htokens₁]
        simp
      · cases h
    · rename_i hlt
      cases h
      refine ⟨hend, fun n' op' hop' => ?_⟩
      cases hop.symm.trans hop'
      exact Nat.lt_of_not_le hlt
  · rename_i hnone
    cases h
    exact ⟨hend, fun n' op' hop' => nomatch hnone.symm.trans hop'⟩
termination_by (c.size, 7)

theorem spans_unary (c : Cursor) {next : Cursor} {tree : Expr}
    (h : read (unary c) = .ok (tree, next)) : c.Spans next .unary tree := by
  rw [read_unary] at h
  split at h
  · rename_i op hop
    split at h
    · cases htoken : c.peek? with
      | none => rw [htoken] at hop; cases hop
      | some token =>
        rw [htoken] at hop
        have hadvance := c.size_advance_lt htoken
        obtain ⟨⟨tree, c₁⟩, hread, h⟩ := bind_eq_ok.1 h
        obtain ⟨ts, htokens, hderives⟩ := spans_unary c.advance.deeper hread
        cases h
        exact ⟨token :: ts, by rw [tokens_advance htoken, ← tokens_deeper, htokens]; rfl,
          .unary (precedes_iff.2 hop) hderives⟩
    · cases h
  · obtain ⟨ts, htokens, hderives⟩ := spans_operand c h
    exact ⟨ts, htokens, .bare hderives⟩
termination_by (c.size, 3)

theorem spans_operand (c : Cursor) {next : Cursor} {tree : Expr}
    (h : read (operand c) = .ok (tree, next)) : c.Spans next .operand tree := by
  rw [read_operand] at h
  obtain ⟨⟨first, c₁⟩, hfirst, h⟩ := bind_eq_ok.1 h
  have hsize := size_lt_of_read hfirst
  obtain ⟨ts, htokens, hderives⟩ := spans_primary c hfirst
  obtain ⟨us, htokens₁, hderives₁⟩ := spans_segments first c₁ ts (.whole hderives) h
  exact ⟨ts ++ us, by rw [htokens, htokens₁, List.append_assoc], hderives₁⟩
termination_by (c.size, 2)

theorem spans_segments (first : Expr) (c : Cursor) {next : Cursor} {tree : Expr} (before : List Token)
    (hfirst : Derives .operand before first) (h : read (segments first c) = .ok (tree, next)) :
    Extends before c next .operand tree := by
  rw [read_segments] at h
  split at h
  · rename_i hdot
    have hadvance := c.size_advance_lt hdot
    split at h
    · rename_i name hname
      have hadvance₂ := c.advance.size_advance_le
      obtain ⟨longer, hlonger, h⟩ := bind_eq_ok.1 h
      obtain ⟨root, segments, rfl, rfl⟩ := Expr.extend_eq_ok hlonger
      obtain ⟨ts, htokens, hderives⟩ := spans_segments _ c.advance.advance _ (hfirst.field name) h
      refine ⟨.dot :: .ident name :: ts, ?_, by simpa using hderives⟩
      rw [tokens_advance hdot, tokens_advance hname, htokens]; rfl
    · cases h
  · rename_i hbracket
    have hadvance := c.size_advance_lt hbracket
    obtain ⟨⟨key, c₁⟩, hkey, h⟩ := bind_eq_ok.1 h
    have hsize := size_lt_of_read hkey
    obtain ⟨us, htokens, hderives⟩ := spans_expression c.advance hkey
    simp only at h
    split at h
    · rename_i hclose
      have hadvance₁ := c₁.size_advance_le
      obtain ⟨longer, hlonger, h⟩ := bind_eq_ok.1 h
      obtain ⟨root, segments, rfl, rfl⟩ := Expr.extend_eq_ok hlonger
      obtain ⟨ts, htokens₁, hderives₁⟩ := spans_segments _ c₁.advance _ (hfirst.index hderives) h
      refine ⟨.leftBracket :: us ++ .rightBracket :: ts, ?_, by simpa using hderives₁⟩
      rw [tokens_advance hbracket, htokens, tokens_advance hclose, htokens₁]
      simp
    · cases h
  · cases h
  · cases h
    exact ⟨[], rfl, by rw [List.append_nil]; exact hfirst⟩
termination_by (c.size, 1)

theorem spans_primary (c : Cursor) {next : Cursor} {tree : Expr}
    (h : read (primary c) = .ok (tree, next)) : c.Spans next .primary tree := by
  rw [read_primary] at h
  split at h
  · rename_i value hvalue
    cases h
    exact ⟨[.number value], tokens_advance hvalue, .number value⟩
  · rename_i text htext
    cases h
    exact ⟨[.str text], tokens_advance htext, .text text⟩
  · rename_i hparen
    have hadvance := c.size_advance_lt hparen
    obtain ⟨⟨inner, c₁⟩, hinner, h⟩ := bind_eq_ok.1 h
    obtain ⟨ts, htokens, hderives⟩ := spans_expression c.advance hinner
    simp only at h
    split at h
    · rename_i hclose
      cases h
      refine ⟨.leftParen :: ts ++ [.rightParen], ?_, .parentheses hderives⟩
      rw [tokens_advance hparen, htokens, tokens_advance hclose]
      simp
    · cases h
  · rename_i hbracket
    have hadvance := c.size_advance_lt hbracket
    obtain ⟨⟨trees, c₁⟩, htrees, h⟩ := bind_eq_ok.1 h
    obtain ⟨items, htokens, hderives, rfl⟩ := lists_arguments .rightBracket c.advance htrees
    simp only [List.length_map] at h
    split at h
    · rename_i hlength
      cases h
      refine ⟨.leftBracket :: separated items ++ [.rightBracket], ?_, .array items hderives hlength⟩
      rw [tokens_advance hbracket, htokens]
      simp
    · cases h
  · rename_i word hword
    have hadvance := c.size_advance_lt hword
    split at h
    · rename_i value hvalue
      cases h
      exact ⟨[.ident word], tokens_advance hword, .constant (constant_iff.2 hvalue)⟩
    split at h
    · cases h
    split at h
    · rename_i root hroot
      cases h
      obtain rfl := Root.name_of_ofName? hroot
      exact ⟨[.ident root.name], tokens_advance hword, .root root⟩
    split at h
    · rename_i hparen
      split at h
      · cases h
      · rename_i helper hhelper
        have hadvance₂ := c.advance.size_advance_le
        obtain ⟨⟨trees, c₁⟩, htrees, h⟩ := bind_eq_ok.1 h
        obtain ⟨items, htokens, hderives, rfl⟩ := lists_arguments .rightParen c.advance.advance htrees
        simp only [List.length_map, Bool.and_eq_true, decide_eq_true_eq] at h
        split at h
        · rename_i hlength
          cases h
          obtain rfl := Helper.name_of_ofName? hhelper
          refine ⟨.ident helper.name :: .leftParen :: separated items ++ [.rightParen], ?_,
            .call helper items hderives hlength.1 hlength.2⟩
          rw [tokens_advance hword, tokens_advance hparen, htokens]
          simp
        · cases h
    · cases h
  · cases h
termination_by (c.size, 0)

theorem lists_arguments (close : Token) (c : Cursor) {next : Cursor} {trees : List Expr}
    (h : read (arguments close c) = .ok (trees, next)) :
    c.Lists next close trees := by
  rw [read_arguments] at h
  split at h
  · rename_i hclose
    cases h
    exact ⟨[], tokens_advance hclose, by simp, rfl⟩
  · obtain ⟨first, rest, htokens, hderives, htrees⟩ := lists_moreArguments close c h
    exact ⟨first :: rest, htokens, hderives, htrees⟩
termination_by (c.size, 8)

theorem lists_moreArguments (close : Token) (c : Cursor) {next : Cursor} {trees : List Expr}
    (h : read (moreArguments close c) = .ok (trees, next)) :
    ∃ first rest, c.tokens = separated (first :: rest) ++ close :: next.tokens ∧
      (∀ item ∈ first :: rest, Derives .expression item.1 item.2) ∧ trees = (first :: rest).map (·.2) := by
  rw [read_moreArguments] at h
  obtain ⟨⟨item, c₁⟩, hitem, h⟩ := bind_eq_ok.1 h
  have hsize := size_lt_of_read hitem
  obtain ⟨ts, htokens, hderives⟩ := spans_expression c hitem
  simp only at h
  split at h
  · rename_i hclose
    cases h
    refine ⟨(ts, item), [], ?_, by simpa using hderives, rfl⟩
    rw [htokens, tokens_advance hclose, separated_singleton]
  split at h
  · rename_i hcomma
    have hadvance := c₁.size_advance_lt hcomma
    obtain ⟨⟨items, c₂⟩, hitems, h⟩ := bind_eq_ok.1 h
    obtain ⟨second, rest, htokens₁, hrest, rfl⟩ := lists_moreArguments close c₁.advance hitems
    cases h
    refine ⟨(ts, item), second :: rest, ?_, ?_, rfl⟩
    · rw [htokens, tokens_advance hcomma, htokens₁, separated_cons]
      simp
    · rintro other (_ | ⟨_, hother⟩)
      · exact hderives
      · exact hrest other hother
  · cases h
termination_by (c.size, 7)

end

end Cursor

end Formwork
