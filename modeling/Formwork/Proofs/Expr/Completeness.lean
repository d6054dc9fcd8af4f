import Formwork.Proofs.Expr.Grammar
import Formwork.Proofs.Expr.Reading

/-!
# Every expression is read

Where a stratum of the grammar derives the next tokens, the procedure of that stratum reads them, as the
tree that was derived, unless they are nested too deep (`Cursor.Reaches`). What follows must not belong to
them: no segment behind an operand, and behind operands no operator that is tighter than the last one
(`Grammar.Follows`). Derivations join from the left as chains do, so a chain is taken up where it stands
behind the derived tokens (`Cursor.Chained`).
-/

namespace Formwork

namespace Grammar

/-! ### What can follow -/

/-- Tokens that start with no segment and with no operator that is tighter than a level. -/
structure Follows (level : Nat) (rest : List Token) : Prop where
  apart : ∀ token, rest.head? = some token → token ≠ .dot ∧ token ≠ .leftBracket ∧ token ≠ .leftParen
  loose : ∀ token n op, rest.head? = some token → Joins n token op → n ≤ level

/-- Tokens that do not start with what could belong to an expression before them. -/
structure Ends (rest : List Token) : Prop extends Follows 0 rest where
  noQuestion : rest.head? ≠ some .question

variable {n m : Nat} {token : Token} {op : Joining} {ts rest : List Token} {tree : Expr}

theorem Follows.mono (h : Follows n rest) (hle : n ≤ m) : Follows m rest :=
  ⟨h.apart, fun token k op htoken hjoins => Nat.le_trans (h.loose token k op htoken hjoins) hle⟩

theorem follows_cons (hapart : token ≠ .dot ∧ token ≠ .leftBracket ∧ token ≠ .leftParen)
    (hloose : ∀ n op, Joins n token op → n ≤ m) : Follows m (token :: rest) := by
  refine ⟨fun other hother => ?_, fun other n op hother hjoins => ?_⟩
  · cases hother; exact hapart
  · cases hother; exact hloose n op hjoins

theorem Joins.follows (h : Joins n token op) : Follows n (token :: rest) := by
  refine follows_cons ?_ fun m op' hjoins => ?_
  · cases h <;> exact ⟨nofun, nofun, nofun⟩
  · cases (joins_iff.1 h).symm.trans (joins_iff.1 hjoins)
    exact Nat.le_refl _

theorem follows_question : Follows 0 (.question :: rest) :=
  follows_cons ⟨nofun, nofun, nofun⟩ fun _ _ hjoins => nomatch hjoins

theorem ends_nil : Ends [] := ⟨⟨nofun, nofun⟩, nofun⟩

/-- The tokens that close expressions or stand between them. -/
def Closing (token : Token) : Prop :=
  token = .colon ∨ token = .comma ∨ token = .rightParen ∨ token = .rightBracket

theorem Closing.ends (h : Closing token) : Ends (token :: rest) := by
  rcases h with rfl | rfl | rfl | rfl
  all_goals exact ⟨follows_cons ⟨nofun, nofun, nofun⟩ fun _ _ hjoins => (nomatch hjoins), nofun⟩

end Grammar

open Grammar

/-! ### Words -/

theorem Root.ofName?_name (root : Root) : Expr.literalWord? root.name = none ∧
    Expr.reservedWords.contains root.name = false ∧ ofName? root.name = some root := by
  cases root <;> decide

theorem Helper.ofName?_name (helper : Helper) : Expr.literalWord? helper.name = none ∧
    Expr.reservedWords.contains helper.name = false ∧ Root.ofName? helper.name = none ∧
    ofName? helper.name = some helper := by
  cases helper <;> decide

namespace Cursor

variable {α β : Type} {c next : Cursor} {level n m : Nat} {token close : Token} {op : Joining}
  {ts us rest : List Token} {tree left right : Expr}

/-! ### Nesting -/

/-- The open levels and the tokens that are left. Every level is opened by a token that was passed
over, but for the first level of an expression, so this does not grow. -/
def load (c : Cursor) : Nat := c.depth + c.size

/-- To pass over a token. -/
theorem pass_token (h : c.tokens = token :: rest) :
    c.peek? = some token ∧ c.advance.tokens = rest ∧ c.advance.load + 1 = c.load := by
  have hpeek : c.peek? = some token := by rw [peek?_eq, h]; rfl
  have htokens := tokens_advance hpeek
  refine ⟨hpeek, (List.cons.inj (htokens.symm.trans h)).2, ?_⟩
  have hlength := congrArg List.length htokens
  simp only [tokens, List.length_map, List.length_cons] at hlength
  show c.depth + c.advance.rest.length + 1 = c.depth + c.rest.length
  omega

theorem load_deeper (c : Cursor) : c.deeper.load = c.load + 1 := Nat.succ_add c.depth c.size

theorem load_leave_le (c : Cursor) (levels : Nat) : (c.leave levels).load ≤ c.load :=
  Nat.add_le_add_right (Nat.sub_le c.depth levels) c.size

/-- A result meets a goal, unless the tokens are nested too deep. That takes a bound above the deepest
nesting. -/
def Reaches (bound : Nat) (goal : Except ParseError α → Prop) (result : Except ParseError α) : Prop :=
  (maxNesting < bound ∧ ∃ position, result = .error ⟨position, .nesting⟩) ∨ goal result

/-- A value was read, and a rest is left. -/
def Found (value : α) (rest : List Token) (bound : Nat) (result : Except ParseError (α × Cursor)) : Prop :=
  ∃ next, result = .ok (value, next) ∧ next.tokens = rest ∧ next.load < bound

/-- A chain goes on with a left part, and a rest is left. -/
def Chained (level : Nat) (left : Expr) (rest : List Token) (bound : Nat)
    (result : Except ParseError (Expr × Cursor)) : Prop :=
  ∃ operators next, result = read (chain level left operators next) ∧ next.tokens = rest ∧ next.load < bound

/-- Segments go on behind an operand, and a rest is left. -/
def Segmented (first : Expr) (rest : List Token) (bound : Nat) (result : Except ParseError (Expr × Cursor)) :
    Prop :=
  ∃ next, result = read (segments first next) ∧ next.tokens = rest ∧ next.load < bound

variable {bound less : Nat}

theorem reaches_bind {value : α} {goal : Except ParseError β → Prop} {result : Except ParseError (α × Cursor)}
    {f : α × Cursor → Except ParseError β} (h : Reaches less (Found value rest less) result)
    (hle : less ≤ bound)
    (hnext : ∀ next, next.tokens = rest → next.load < less → Reaches bound goal (f (value, next))) :
    Reaches bound goal (result >>= f) := by
  rcases h with ⟨hdeep, position, rfl⟩ | ⟨next, rfl, htokens, hload⟩
  · exact .inl ⟨Nat.lt_of_lt_of_le hdeep hle, position, rfl⟩
  · exact hnext next htokens hload

theorem reaches_found {value : α} (h : next.tokens = rest) (hload : next.load < bound) :
    Reaches bound (Found value rest bound) (.ok (value, next)) :=
  .inr ⟨next, rfl, h, hload⟩

theorem reaches_too_deep {goal : Except ParseError α → Prop} (hdepth : ¬ c.depth < maxNesting)
    (hload : c.load < bound) : Reaches bound goal (next.fail .nesting) := by
  have hle : maxNesting ≤ c.load := Nat.le_trans (Nat.le_of_not_lt hdepth) (Nat.le_add_right _ _)
  exact .inl ⟨Nat.lt_of_le_of_lt hle hload, _, rfl⟩

theorem reaches_expected {goal : Except ParseError α → Prop} {result other : Except ParseError α}
    (htoken : c.peek? = some token) (h : Reaches bound goal result) :
    Reaches bound goal (if c.peek? = some token then result else other) := by
  rw [if_pos htoken]
  exact h

theorem Reaches.imp {goal goal' : Except ParseError α → Prop} {result : Except ParseError α}
    (h : Reaches bound goal result) (himp : goal result → Reaches bound goal' result) :
    Reaches bound goal' result := by
  rcases h with hdeep | hgoal
  · exact .inl hdeep
  · exact himp hgoal

/-- The tokens of a stratum are read by its procedure, whatever follows that does not belong to them. -/
def Complete : Stratum → List Token → Expr → Prop
  | .expression, ts, tree => ∀ c rest, c.tokens = ts ++ rest → Ends rest →
    Reaches (c.load + 1) (Found tree rest (c.load + 1)) (read (expression c))
  | .level n, ts, tree => ∀ m ≤ n, ∀ c rest, c.tokens = ts ++ rest → Follows n rest →
    Reaches c.load (Chained m tree rest c.load) (read (logical m c))
  | .unary, ts, tree => ∀ c rest, c.tokens = ts ++ rest → Follows 8 rest →
    Reaches c.load (Found tree rest c.load) (read (unary c))
  | .operand, ts, tree => ∀ c rest, c.tokens = ts ++ rest →
    Reaches c.load (Segmented tree rest c.load) (read (operand c))
  | .primary, ts, tree => ∀ c rest, c.tokens = ts ++ rest →
    Reaches c.load (Found tree rest c.load) (read (primary c))

/-! ### Chains -/

theorem read_chain_of_follows {operators : Nat} (hrest : Follows n c.tokens) (hlt : n < level ∨ n = 0) :
    read (chain level left operators c) = .ok (left, c.leave operators) := by
  rw [read_chain]
  split
  · rename_i tightness op hop
    obtain ⟨token, htoken, hjoins⟩ := Option.bind_eq_some_iff.1 hop
    rw [peek?_eq] at htoken
    have hjoins := joins_iff.2 hjoins
    have hbounds := hjoins.bounds
    have hloose := hrest.loose token tightness op htoken hjoins
    rw [if_neg (by omega)]
  · rfl

/-- A chain ends where no operator of its level or of a tighter one follows. -/
theorem Reaches.of_chained {result : Except ParseError (Expr × Cursor)}
    (h : Reaches bound (Chained level left rest bound) result) (hrest : Follows n rest)
    (hlt : n < level ∨ n = 0) : Reaches bound (Found left rest bound) result := by
  refine h.imp fun ⟨operators, next, hresult, htokens, hload⟩ => ?_
  have hleave := Nat.lt_of_le_of_lt (next.load_leave_le operators) hload
  rw [hresult, read_chain_of_follows (htokens ▸ hrest) hlt]
  exact reaches_found htokens hleave

/-- A chain takes up an operator and its right part. -/
theorem Reaches.join {result : Except ParseError (Expr × Cursor)} (hjoins : Joins n token op)
    (h : Reaches bound (Chained level left (token :: us ++ rest) bound) result) (hle : level ≤ n)
    (hright : Complete (.level (n + 1)) us right) (hrest : Follows n rest) :
    Reaches bound (Chained level (op.join left right) rest bound) result := by
  refine h.imp fun ⟨operators, next, hresult, htokens, hload⟩ => ?_
  obtain ⟨hpeek, hadvance, hpassed⟩ := pass_token htokens
  rw [hresult, read_chain, hpeek, Option.bind_some, joins_iff.1 hjoins]
  simp only [hle, if_true]
  split
  · -- What follows is not tighter than this operator, so the chain of the right part ends there and
    -- the operators of this level join from the left.
    have hbehind := hrest.mono (Nat.le_succ n)
    have hread := hright (n + 1) (Nat.le_refl _) next.advance.deeper rest hadvance hbehind
    rw [load_deeper, hpassed] at hread
    refine reaches_bind (hread.of_chained hrest (.inl (Nat.lt_succ_self n))) (Nat.le_of_lt hload)
      fun next' htokens' hload' => ?_
    exact .inr ⟨operators + 1, next', rfl, htokens', Nat.lt_trans hload' hload⟩
  · rename_i hdepth
    exact reaches_too_deep hdepth hload

theorem complete_joined (hjoins : Joins n token op) (hleft : Complete (.level n) ts left)
    (hright : Complete (.level (n + 1)) us right) :
    Complete (.level n) (ts ++ token :: us) (op.join left right) := by
  intro m hm c rest htokens hrest
  rw [List.append_assoc] at htokens
  exact (hleft m hm c _ htokens hjoins.follows).join hjoins hm hright hrest

theorem complete_tighter (h : Complete (.level (n + 1)) ts tree) : Complete (.level n) ts tree :=
  fun m hm c rest htokens hrest =>
    h m (Nat.le_succ_of_le hm) c rest htokens (hrest.mono (Nat.le_succ n))

theorem complete_single (h : Complete .unary ts tree) : Complete (.level 8) ts tree := by
  intro m _ c rest htokens hrest
  rw [read_logical]
  refine reaches_bind (h c rest htokens hrest) (Nat.le_refl _) fun next hnext hload => ?_
  exact .inr ⟨0, next, rfl, hnext, hload⟩

/-! ### Expressions -/

theorem reaches_expression {value : Expr} (htokens : c.tokens = ts)
    (h : ∀ c, c.tokens = ts → Reaches c.load (Found value rest c.load) (read (conditional c))) :
    Reaches (c.load + 1) (Found value rest (c.load + 1)) (read (expression c)) := by
  rw [read_expression]
  split
  · have hread := h c.deeper htokens
    rw [load_deeper] at hread
    refine reaches_bind hread (Nat.le_refl _) fun next hnext hload => ?_
    exact reaches_found hnext (Nat.lt_of_le_of_lt (next.load_leave_le 1) hload)
  · rename_i hdepth
    exact reaches_too_deep hdepth (Nat.lt_succ_self _)

theorem complete_unconditional (h : Complete (.level 1) ts tree) : Complete .expression ts tree := by
  intro c rest htokens hrest
  refine reaches_expression htokens fun c htokens => ?_
  have htest := h 0 (Nat.zero_le 1) c rest htokens (hrest.toFollows.mono (Nat.zero_le 1))
  rw [read_conditional]
  refine reaches_bind (htest.of_chained hrest.toFollows (.inr rfl)) (Nat.le_refl _) fun next hnext hload => ?_
  have hquestion : ¬ next.peek? = some .question := by rw [peek?_eq, hnext]; exact hrest.noQuestion
  show Reaches _ _ (if next.peek? = some .question then _ else _)
  rw [if_neg hquestion]
  exact reaches_found hnext hload

theorem complete_conditional {vs : List Token} {test yes no : Expr} (htest : Complete (.level 1) ts test)
    (hyes : Complete .expression us yes) (hno : Complete .expression vs no) :
    Complete .expression (ts ++ .question :: us ++ .colon :: vs) (.conditional test yes no) := by
  intro c rest htokens hrest
  refine reaches_expression htokens fun c htokens => ?_
  simp only [List.append_assoc, List.cons_append] at htokens
  have hread := htest 0 (Nat.zero_le 1) c _ htokens (follows_question.mono (Nat.zero_le 1))
  rw [read_conditional]
  refine reaches_bind (hread.of_chained follows_question (.inr rfl)) (Nat.le_refl _) fun c₁ hc₁ hload₁ => ?_
  obtain ⟨hquestion, hadvance, hpassed⟩ := pass_token hc₁
  refine reaches_expected hquestion ?_
  have hread₁ := hyes c₁.advance _ hadvance (Closing.ends (.inl rfl))
  refine reaches_bind hread₁ (by omega) fun c₂ hc₂ hload₂ => ?_
  obtain ⟨hcolon, hadvance₂, hpassed₂⟩ := pass_token hc₂
  refine reaches_expected hcolon ?_
  refine reaches_bind (hno c₂.advance rest hadvance₂ hrest) (by omega) fun c₃ hc₃ hload₃ => ?_
  exact reaches_found hc₃ (by omega)

/-! ### Operands -/

theorem complete_unary {op : UnaryOp} (hprecedes : Precedes token op) (h : Complete .unary ts tree) :
    Complete .unary (token :: ts) (.unary op tree) := by
  intro c rest htokens hrest
  obtain ⟨hpeek, hadvance, hpassed⟩ := pass_token htokens
  rw [read_unary, hpeek, precedes_iff.1 hprecedes]
  simp only
  split
  · have hread := h c.advance.deeper rest hadvance hrest
    rw [load_deeper, hpassed] at hread
    refine reaches_bind hread (Nat.le_refl _) fun next hnext hload => ?_
    exact reaches_found hnext (Nat.lt_of_le_of_lt (next.load_leave_le 1) hload)
  · rename_i hdepth
    have hdepth : ¬ c.advance.depth < maxNesting := hdepth
    exact reaches_too_deep hdepth (by omega)

theorem read_segments_of_follows (hrest : Follows n c.tokens) : read (segments tree c) = .ok (tree, c) := by
  have hapart : ∀ token, c.peek? = some token → _ := fun token htoken =>
    hrest.apart token (by rw [← peek?_eq]; exact htoken)
  rw [read_segments]
  split
  · rename_i hdot; exact absurd rfl (hapart _ hdot).1
  · rename_i hbracket; exact absurd rfl (hapart _ hbracket).2.1
  · rename_i hparen; exact absurd rfl (hapart _ hparen).2.2
  · rfl

theorem complete_bare (hderives : Derives .operand ts tree) (h : Complete .operand ts tree) :
    Complete .unary ts tree := by
  intro c rest htokens hrest
  obtain ⟨first, more, hfirst, hnone⟩ := hderives.operand_first (.inl rfl)
  have hpeek : c.peek? = some first := by rw [peek?_eq, htokens, hfirst]; rfl
  rw [read_unary, hpeek, hnone]
  refine (h c rest htokens).imp fun ⟨next, hresult, hnext, hload⟩ => ?_
  rw [hresult, read_segments_of_follows (hnext ▸ hrest)]
  exact reaches_found hnext hload

theorem complete_field {root : Root} {segments : List Segment} (name : String)
    (h : Complete .operand ts (.path root segments)) :
    Complete .operand (ts ++ [.dot, .ident name]) (.path root (segments ++ [.field name])) := by
  intro c rest htokens
  rw [List.append_assoc] at htokens
  refine (h c _ htokens).imp fun ⟨next, hresult, hnext, hload⟩ => ?_
  obtain ⟨hdot, hadvance, hpassed⟩ := pass_token hnext
  obtain ⟨hname, hadvance₂, hpassed₂⟩ := pass_token hadvance
  rw [hresult, read_segments, hdot]
  simp only [hname]
  exact .inr ⟨next.advance.advance, rfl, hadvance₂, by omega⟩

theorem complete_index {root : Root} {segments : List Segment} {key : Expr}
    (h : Complete .operand ts (.path root segments)) (hkey : Complete .expression us key) :
    Complete .operand (ts ++ .leftBracket :: us ++ [.rightBracket])
      (.path root (segments ++ [.index key])) := by
  intro c rest htokens
  simp only [List.append_assoc, List.cons_append, List.nil_append] at htokens
  refine (h c _ htokens).imp fun ⟨next, hresult, hnext, hload⟩ => ?_
  obtain ⟨hbracket, hadvance, hpassed⟩ := pass_token hnext
  have hread := hkey next.advance _ hadvance (Closing.ends (.inr (.inr (.inr rfl))))
  rw [hresult, read_segments, hbracket]
  refine reaches_bind hread (by omega) fun c₁ hc₁ hload₁ => ?_
  obtain ⟨hclose, hadvance₁, hpassed₁⟩ := pass_token hc₁
  refine reaches_expected hclose ?_
  exact .inr ⟨c₁.advance, rfl, hadvance₁, by omega⟩

theorem complete_whole (h : Complete .primary ts tree) : Complete .operand ts tree := by
  intro c rest htokens
  rw [read_operand]
  refine reaches_bind (h c rest htokens) (Nat.le_refl _) fun next hnext hload => ?_
  exact .inr ⟨next, rfl, hnext, hload⟩

/-! ### Primaries -/

theorem reaches_advance {value : Expr} (h : c.tokens = token :: rest) :
    Reaches c.load (Found value rest c.load) (.ok (value, c.advance)) := by
  obtain ⟨-, hadvance, hpassed⟩ := pass_token h
  exact reaches_found hadvance (by omega)

theorem complete_number (value : Float) :
    Complete .primary [.number value] (.literal (.ofArithmetic value)) := by
  intro c rest htokens
  rw [read_primary, (pass_token htokens).1]
  exact reaches_advance htokens

theorem complete_text (text : String) : Complete .primary [.str text] (.literal (.str text)) := by
  intro c rest htokens
  rw [read_primary, (pass_token htokens).1]
  exact reaches_advance htokens

theorem complete_constant {word : String} {value : Json} (h : Constant word value) :
    Complete .primary [.ident word] (.literal value) := by
  intro c rest htokens
  rw [read_primary, (pass_token htokens).1]
  simp only [constant_iff.1 h]
  exact reaches_advance htokens

theorem complete_root (root : Root) : Complete .primary [.ident root.name] (.path root []) := by
  intro c rest htokens
  obtain ⟨hliteral, hreserved, hroot⟩ := root.ofName?_name
  rw [read_primary, (pass_token htokens).1]
  simp only [hliteral, hreserved, hroot]
  exact reaches_advance htokens

theorem complete_parentheses (h : Complete .expression ts tree) :
    Complete .primary (.leftParen :: ts ++ [.rightParen]) tree := by
  intro c rest htokens
  simp only [List.append_assoc, List.cons_append, List.nil_append] at htokens
  obtain ⟨hpeek, hadvance, hpassed⟩ := pass_token htokens
  have hread := h c.advance _ hadvance (Closing.ends (.inr (.inr (.inl rfl))))
  rw [read_primary, hpeek]
  refine reaches_bind hread (Nat.le_of_eq hpassed) fun c₁ hc₁ hload₁ => ?_
  obtain ⟨hclose, hadvance₁, hpassed₁⟩ := pass_token hc₁
  exact reaches_expected hclose (reaches_found hadvance₁ (by omega))

/-! ### Arguments -/

theorem reaches_moreArguments (hclose : close = .rightParen ∨ close = .rightBracket)
    (first : List Token × Expr) (items : List (List Token × Expr))
    (h : ∀ item ∈ first :: items, Complete .expression item.1 item.2)
    (htokens : c.tokens = separated (first :: items) ++ close :: rest) :
    Reaches (c.load + 1) (Found ((first :: items).map (·.2)) rest (c.load + 1))
      (read (moreArguments close c)) := by
  have hends : ∀ rest, Ends (close :: rest) := fun rest =>
    Closing.ends (hclose.elim (.inr ∘ .inr ∘ .inl) (.inr ∘ .inr ∘ .inr))
  induction items generalizing first c with
  | nil =>
    have hfirst := h first (List.mem_singleton_self first)
    rw [separated_singleton] at htokens
    rw [read_moreArguments]
    refine reaches_bind (hfirst c _ htokens (hends rest)) (Nat.le_refl _) fun c₁ hc₁ hload₁ => ?_
    obtain ⟨hpeek, hadvance, hpassed⟩ := pass_token hc₁
    exact reaches_expected hpeek (reaches_found hadvance (by omega))
  | cons second items ih =>
    have hfirst := h first List.mem_cons_self
    rw [separated_cons, List.append_assoc] at htokens
    rw [read_moreArguments]
    have hread := hfirst c _ htokens (Closing.ends (.inr (.inl rfl)))
    refine reaches_bind hread (Nat.le_refl _) fun c₁ hc₁ hload₁ => ?_
    obtain ⟨hcomma, hadvance, hpassed⟩ := pass_token hc₁
    have hopen : ¬ c₁.peek? = some close := by
      rw [hcomma]
      rcases hclose with rfl | rfl <;> exact nofun
    show Reaches _ _ (if c₁.peek? = some close then _ else _)
    rw [if_neg hopen]
    refine reaches_expected hcomma ?_
    have hrest := ih second (fun item hitem => h item (List.mem_cons_of_mem first hitem)) hadvance
    exact reaches_bind hrest (by omega) fun c₂ hc₂ hload₂ => reaches_found hc₂ (by omega)

theorem reaches_arguments (hclose : close = .rightParen ∨ close = .rightBracket)
    (items : List (List Token × Expr)) (hderives : ∀ item ∈ items, Derives .expression item.1 item.2)
    (h : ∀ item ∈ items, Complete .expression item.1 item.2)
    (htokens : c.tokens = separated items ++ close :: rest) :
    Reaches (c.load + 1) (Found (items.map (·.2)) rest (c.load + 1)) (read (arguments close c)) := by
  rw [read_arguments]
  cases items with
  | nil =>
    obtain ⟨hpeek, hadvance, hpassed⟩ := pass_token htokens
    rw [if_pos hpeek]
    exact reaches_found hadvance (by omega)
  | cons first items =>
    obtain ⟨token, more, hfirst, hparen, hbracket⟩ := (hderives first List.mem_cons_self).exists_first
    obtain ⟨others, hothers⟩ := separated_eq_append first items
    have hopen : ¬ c.peek? = some close := by
      rw [peek?_eq, htokens, hothers, hfirst]
      rintro ⟨⟩
      rcases hclose with rfl | rfl
      · exact hparen rfl
      · exact hbracket rfl
    rw [if_neg hopen]
    exact reaches_moreArguments hclose first items h htokens

theorem complete_array (items : List (List Token × Expr))
    (hderives : ∀ item ∈ items, Derives .expression item.1 item.2)
    (h : ∀ item ∈ items, Complete .expression item.1 item.2) (hlength : items.length ≤ maxArrayLiteral) :
    Complete .primary (.leftBracket :: separated items ++ [.rightBracket]) (.array (items.map (·.2))) := by
  intro c rest htokens
  simp only [List.append_assoc, List.cons_append, List.nil_append] at htokens
  obtain ⟨hpeek, hadvance, hpassed⟩ := pass_token htokens
  rw [read_primary, hpeek]
  refine reaches_bind (reaches_arguments (.inr rfl) items hderives h hadvance) (Nat.le_of_eq hpassed)
    fun c₁ hc₁ hload₁ => ?_
  show Reaches _ _ (if (items.map (·.2)).length ≤ maxArrayLiteral then _ else _)
  rw [List.length_map, if_pos hlength]
  exact reaches_found hc₁ (by omega)

theorem complete_call (helper : Helper) (items : List (List Token × Expr))
    (hderives : ∀ item ∈ items, Derives .expression item.1 item.2)
    (h : ∀ item ∈ items, Complete .expression item.1 item.2)
    (hleast : helper.arity.1 ≤ items.length) (hgreatest : items.length ≤ helper.arity.2) :
    Complete .primary (.ident helper.name :: .leftParen :: separated items ++ [.rightParen])
      (.call helper (items.map (·.2))) := by
  intro c rest htokens
  simp only [List.append_assoc, List.cons_append, List.nil_append] at htokens
  obtain ⟨hpeek, hadvance, hpassed⟩ := pass_token htokens
  obtain ⟨hparen, hadvance₁, hpassed₁⟩ := pass_token hadvance
  obtain ⟨hliteral, hreserved, hroot, hname⟩ := helper.ofName?_name
  rw [read_primary, hpeek]
  simp only [hliteral, hreserved, hroot, hparen, hname, if_true]
  refine reaches_bind (reaches_arguments (.inl rfl) items hderives h hadvance₁) (by omega)
    fun c₁ hc₁ hload₁ => ?_
  simp only [List.length_map, hleast, hgreatest, decide_true, Bool.and_self, if_true]
  exact reaches_found hc₁ (by omega)

/-- Whatever the grammar derives is read as the tree that was derived, unless it is nested too deep. -/
theorem complete {stratum : Stratum} (h : Derives stratum ts tree) : Complete stratum ts tree := by
  induction h with
  | conditional _ _ _ htest hyes hno => exact complete_conditional htest hyes hno
  | unconditional _ ih => exact complete_unconditional ih
  | joined hjoins _ _ hleft hright => exact complete_joined hjoins hleft hright
  | tighter _ ih => exact complete_tighter ih
  | single _ ih => exact complete_single ih
  | unary hprecedes _ ih => exact complete_unary hprecedes ih
  | bare hderives ih => exact complete_bare hderives ih
  | field name _ ih => exact complete_field name ih
  | index _ _ ih hkey => exact complete_index ih hkey
  | whole _ ih => exact complete_whole ih
  | number value => exact complete_number value
  | text text => exact complete_text text
  | constant hconstant => exact complete_constant hconstant
  | root root => exact complete_root root
  | call helper items hderives hleast hgreatest ih =>
    exact complete_call helper items hderives ih hleast hgreatest
  | array items hderives hlength ih => exact complete_array items hderives ih hlength
  | parentheses _ ih => exact complete_parentheses ih

end Cursor

end Formwork
