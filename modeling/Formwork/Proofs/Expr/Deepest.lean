import Formwork.Proofs.Expr.Depth
import Formwork.Proofs.Expr.Parse

/-!
# The deepest expression

For every number of levels there is a text that the parser reads with as many and whose tree is as deep as
they allow (`Expr.deepText`): a condition whose test is a chain with an operator for every level, which
starts from an array of the deepest expression with a level less. With 22 levels its tree is already deeper
than the number of all levels.
-/

namespace Formwork

open Grammar

namespace Expr

/-- As many empty arrays as operators before them. -/
def sumTokens : Nat → List Token
  | 0 => []
  | operators + 1 => .plus :: .leftBracket :: .rightBracket :: sumTokens operators

/-- The tokens of a deepest expression that takes one level more than the number says. -/
def deepTokens : Nat → List Token
  | 0 => [.leftBracket, .rightBracket]
  | levels + 1 => .leftBracket :: deepTokens levels ++ .rightBracket :: sumTokens (levels + 1) ++
      [.question, .leftBracket, .rightBracket, .colon, .leftBracket, .rightBracket]

/-- The characters of the tokens in `deepTokens`. The blank keeps a question mark apart. -/
def spell : Token → List Char
  | .leftBracket => ['[']
  | .rightBracket => [']']
  | .plus => ['+']
  | .question => ['?', ' ']
  | .colon => [':']
  | _ => []

/-- A text of a deepest expression. -/
def deepText (levels : Nat) : String := String.ofList ((deepTokens levels).flatMap spell)

example : deepText 1 = "[[]]+[]? []:[]" := rfl

end Expr

/-! ### Its tokens -/

namespace Token

variable {token : Token} {previous : Option Token} {position : Nat} {c : Char} {rest : List Char}
  {placed : List Placed}

theorem scanFrom_blank (h : Text.isBlank c = true) :
    scanFrom previous position (c :: rest) = scanFrom previous (position + c.utf8Size) rest := by
  rw [scanFrom, if_pos h]

theorem scanFrom_symbol (hblank : Text.isBlank c = false) (hnext : next previous c rest = .ok (token, 0))
    (h : scanFrom (some token) (position + c.utf8Size) rest = .ok placed) :
    scanFrom previous position (c :: rest) = .ok (⟨token, position⟩ :: placed) := by
  have hwidth : scanFrom (some token) (position + c.utf8Size + byteCount (rest.take 0)) (rest.drop 0) =
      .ok placed := h
  rw [scanFrom, hblank, hnext]
  simp only [hwidth, Bool.false_eq_true, if_false]

theorem scanFrom_spell {tokens : List Token} (h : ∀ token ∈ tokens,
      token ∈ [.leftBracket, .rightBracket, .plus, .question, .colon]) :
    ∃ placed, scanFrom previous position (tokens.flatMap Expr.spell) = .ok placed ∧
      placed.map (·.token) = tokens := by
  induction tokens generalizing previous position with
  | nil => exact ⟨[], by rw [List.flatMap_nil, scanFrom], rfl⟩
  | cons token tokens ih =>
    obtain ⟨htoken, htokens⟩ := List.forall_mem_cons.1 h
    have hcons : ∀ c, Text.isBlank c = false → next previous c (tokens.flatMap Expr.spell) = .ok (token, 0) →
        ∃ placed, scanFrom previous position (c :: tokens.flatMap Expr.spell) = .ok placed ∧
          placed.map (·.token) = token :: tokens := fun c hblank hnext => by
      obtain ⟨placed, hscan, hplaced⟩ := ih htokens
      exact ⟨_, scanFrom_symbol hblank hnext hscan, by rw [List.map_cons, hplaced]⟩
    simp only [List.mem_cons, List.not_mem_nil, or_false] at htoken
    rcases htoken with rfl | rfl | rfl | rfl | rfl
    · exact hcons '[' rfl rfl
    · exact hcons ']' rfl rfl
    · exact hcons '+' rfl rfl
    · obtain ⟨placed, hscan, hplaced⟩ := ih htokens
      exact ⟨_, scanFrom_symbol rfl rfl ((scanFrom_blank rfl).trans hscan), by rw [List.map_cons, hplaced]⟩
    · exact hcons ':' rfl rfl

end Token

namespace Expr

theorem mem_sumTokens (operators : Nat) : ∀ token ∈ sumTokens operators,
    token ∈ [.leftBracket, .rightBracket, .plus, .question, .colon] := by
  induction operators with
  | zero => exact nofun
  | succ operators ih => simpa [sumTokens] using ih

theorem mem_deepTokens (levels : Nat) : ∀ token ∈ deepTokens levels,
    token ∈ [.leftBracket, .rightBracket, .plus, .question, .colon] := by
  induction levels with
  | zero => simp [deepTokens]
  | succ levels ih =>
    simp only [deepTokens, List.cons_append, List.append_assoc, List.forall_mem_cons,
      List.forall_mem_append]
    exact ⟨by simp, ih, by simp, mem_sumTokens (levels + 1), by simp⟩

theorem scan_deepText (levels : Nat) : ∃ placed, Token.scan (deepText levels) = .ok placed ∧
    placed.map (·.token) = deepTokens levels := by
  rw [Token.scan, deepText, String.toList_ofList]
  exact Token.scanFrom_spell (mem_deepTokens levels)

end Expr

/-! ### Its tree -/

namespace Cursor

open Formwork.Expr

variable {c : Cursor} {rest : List Token}

theorem read_logical_array {next : Cursor} {level n : Nat} {items : List Expr}
    (hbracket : c.peek? = some .leftBracket) (hlength : items.length ≤ maxArrayLiteral)
    (hitems : read (arguments .rightBracket c.advance) = .ok (items, next)) (hrest : Follows n next.tokens) :
    read (logical level c) = read (chain level (.array items) 0 next) := by
  have hprimary : read (primary c) = .ok (.array items, next) := by
    rw [read_primary, hbracket]
    simp only [hitems]
    show (if items.length ≤ maxArrayLiteral then _ else _) = _
    rw [if_pos hlength]; rfl
  have hunary : read (unary c) = .ok (.array items, next) := by
    rw [read_unary, hbracket]
    show read (operand c) = _
    rw [read_operand, hprimary]
    exact read_segments_of_follows hrest
  rw [read_logical, hunary]
  rfl

/-- An empty array is an operand wherever no segment follows it. -/
theorem read_logical_empty {level n : Nat} (htokens : c.tokens = .leftBracket :: .rightBracket :: rest)
    (hrest : Follows n rest) : ∃ next, next.tokens = rest ∧ next.depth = c.depth ∧
      read (logical level c) = read (chain level (.array []) 0 next) := by
  obtain ⟨hbracket, hadvance, -⟩ := pass_token htokens
  obtain ⟨hclose, hadvance₁, -⟩ := pass_token hadvance
  have hitems : read (arguments .rightBracket c.advance) = .ok ([], c.advance.advance) := by
    rw [read_arguments, if_pos hclose]
  exact ⟨c.advance.advance, hadvance₁, rfl,
    read_logical_array hbracket (Nat.zero_le _) hitems (hadvance₁ ▸ hrest)⟩

theorem follows_sumTokens {operators : Nat} (hrest : Follows 0 rest) :
    Follows 6 (sumTokens operators ++ rest) := by
  cases operators with
  | zero => exact hrest.mono (Nat.zero_le 6)
  | succ operators => exact Joins.add.follows

/-- A chain takes up as many operands as levels are free. -/
theorem read_chain_sum {left : Expr} {operators taken : Nat} (htokens : c.tokens = sumTokens operators ++ rest)
    (hrest : Follows 0 rest) (hdepth : c.depth + operators ≤ maxNesting) (hleft : 0 < left.depth) :
    ∃ tree next, read (chain 0 left taken c) = .ok (tree, next) ∧ next.tokens = rest ∧
      tree.depth = left.depth + operators := by
  induction operators generalizing c left taken with
  | zero => exact ⟨left, _, read_chain_of_follows (htokens ▸ hrest) (.inr rfl), htokens, rfl⟩
  | succ operators ih =>
    have htokens : c.tokens = .plus :: .leftBracket :: .rightBracket :: (sumTokens operators ++ rest) :=
      htokens
    have hopen : c.depth < maxNesting := by omega
    obtain ⟨hplus, hadvance, -⟩ := pass_token htokens
    have hfollows := @follows_sumTokens rest operators hrest
    obtain ⟨next, hnext, hlevels, hread⟩ := @read_logical_empty c.advance.deeper _ 7 6 hadvance hfollows
    rw [read_chain_of_follows (hnext ▸ hfollows) (.inl (by decide))] at hread
    have hnextDepth : (next.leave 0).depth + operators ≤ maxNesting := by
      have : (next.leave 0).depth = c.depth + 1 := hlevels
      omega
    have hjoined : (Expr.binary .add left (.array [])).depth = left.depth + 1 := by
      show max left.depth 1 + 1 = _
      omega
    obtain ⟨tree, last, hchain, hlast, hgrown⟩ :=
      @ih (next.leave 0) (.binary .add left (.array [])) (taken + 1) hnext hnextDepth (by omega)
    refine ⟨tree, last, ?_, hlast, by omega⟩
    rw [read_chain, hplus]
    show (if 0 ≤ 6 then if c.depth < maxNesting then _ else _ else _) = _
    rw [if_pos (Nat.zero_le 6), if_pos hopen, hread]
    exact hchain

theorem read_expression_of_conditional {next : Cursor} {tree : Expr} (hdepth : c.depth < maxNesting)
    (h : read (conditional c.deeper) = .ok (tree, next)) :
    read (expression c) = .ok (tree, next.leave 1) := by
  rw [read_expression, if_pos hdepth, h]
  rfl

theorem read_expression_empty (htokens : c.tokens = .leftBracket :: .rightBracket :: rest) (hrest : Ends rest)
    (hdepth : c.depth < maxNesting) :
    ∃ next, read (expression c) = .ok (.array [], next) ∧ next.tokens = rest := by
  obtain ⟨next, hnext, -, hread⟩ := @read_logical_empty c.deeper _ 0 0 htokens hrest.toFollows
  rw [read_chain_of_follows (hnext ▸ hrest.toFollows) (.inr rfl)] at hread
  refine ⟨_, read_expression_of_conditional hdepth ?_, hnext⟩
  have hquestion : ¬ (next.leave 0).peek? = some .question := by
    rw [peek?_eq, tokens_leave, hnext]
    exact hrest.noQuestion
  rw [read_conditional, hread]
  show (if (next.leave 0).peek? = some .question then _ else _) = _
  rw [if_neg hquestion]; rfl

theorem read_conditional_empty {test : Expr} {c₁ : Cursor} (htest : read (logical 0 c) = .ok (test, c₁))
    (htokens : c₁.tokens =
      .question :: .leftBracket :: .rightBracket :: .colon :: .leftBracket :: .rightBracket :: rest)
    (hrest : Ends rest) (hdepth : c₁.depth < maxNesting) :
    ∃ next, read (conditional c) = .ok (.conditional test (.array []) (.array []), next) ∧
      next.tokens = rest := by
  obtain ⟨hquestion, hadvance, -⟩ := pass_token htokens
  obtain ⟨c₂, hyes, hc₂⟩ := read_expression_empty hadvance (Closing.ends (.inl rfl)) hdepth
  obtain ⟨-, hlevels, -⟩ := within_expression _ hyes
  obtain ⟨hcolon, hadvance₂, -⟩ := pass_token hc₂
  have hdepth₂ : c₂.depth < maxNesting := Nat.lt_of_le_of_lt (Nat.le_of_eq hlevels) hdepth
  obtain ⟨c₃, hno, hc₃⟩ := read_expression_empty hadvance₂ hrest hdepth₂
  refine ⟨c₃, ?_, hc₃⟩
  rw [read_conditional, htest]
  show (if c₁.peek? = some .question then _ else _) = _
  rw [if_pos hquestion, hyes]
  show (if c₂.peek? = some .colon then _ else _) = _
  rw [if_pos hcolon, hno]
  rfl

/-- An array of one expression, which starts with a bracket itself. -/
theorem read_arguments_single {item : Expr} {next : Cursor} (hbracket : c.peek? = some .leftBracket)
    (h : read (expression c) = .ok (item, next)) (hclose : next.peek? = some .rightBracket) :
    read (arguments .rightBracket c) = .ok ([item], next.advance) := by
  have hopen : ¬ c.peek? = some .rightBracket := by rw [hbracket]; exact nofun
  rw [read_arguments, if_neg hopen, read_moreArguments, h]
  show (if next.peek? = some .rightBracket then _ else _) = _
  rw [if_pos hclose]
  rfl

/-- The tokens of a deepest expression are read where one level more is free, and its tree is as deep as
that allows. -/
theorem read_expression_deep {levels : Nat} (htokens : c.tokens = deepTokens levels ++ rest)
    (hrest : Ends rest) (hdepth : c.depth + levels < maxNesting) :
    ∃ tree next, read (expression c) = .ok (tree, next) ∧ next.tokens = rest ∧
      tree.depth = deepest (levels + 1) := by
  induction levels generalizing c rest with
  | zero =>
    obtain ⟨next, hread, hnext⟩ := read_expression_empty htokens hrest hdepth
    exact ⟨_, next, hread, hnext, rfl⟩
  | succ levels ih =>
    simp only [deepTokens, List.cons_append, List.append_assoc, List.nil_append] at htokens
    -- The array of the deepest expression with a level less.
    obtain ⟨hbracket, hadvance, -⟩ := @pass_token c.deeper _ _ htokens
    have hinnerLevels : c.deeper.advance.depth + levels < maxNesting := by
      show c.depth + 1 + levels < maxNesting
      omega
    obtain ⟨inner, c₁, hinner, hc₁, hinnerDepth⟩ :=
      ih hadvance (Closing.ends (.inr (.inr (.inr rfl)))) hinnerLevels
    obtain ⟨-, hlevels₁, -⟩ := within_expression _ hinner
    obtain ⟨hclose, hadvance₁, -⟩ := pass_token hc₁
    have hfirst : c.deeper.advance.peek? = some .leftBracket := by
      rw [peek?_eq, hadvance]; cases levels <;> rfl
    have harray := @read_logical_array c.deeper _ 0 6 [inner] hbracket (by decide : 1 ≤ maxArrayLiteral)
      (read_arguments_single hfirst hinner hclose) (hadvance₁ ▸ follows_sumTokens follows_question)
    -- The chain of as many operators as there are levels left, and the condition that ends there.
    have hchainLevels : c₁.advance.depth + (levels + 1) ≤ maxNesting := by
      have : c₁.advance.depth = c.depth + 1 := hlevels₁
      omega
    obtain ⟨test, c₂, htest, hc₂, htestDepth⟩ := @read_chain_sum c₁.advance _ (.array [inner]) _ 0
      hadvance₁ follows_question hchainLevels (Nat.succ_pos _)
    rw [← harray] at htest
    obtain ⟨hlevels₂, -⟩ := within_logical 0 c.deeper htest
    have hopen : c₂.depth < maxNesting := by
      have : c₂.depth = c.depth + 1 := hlevels₂
      omega
    obtain ⟨next, hread, hnext⟩ := read_conditional_empty htest hc₂ hrest hopen
    refine ⟨_, _, read_expression_of_conditional (by omega) hread, hnext, ?_⟩
    have hgrown : test.depth = deepest (levels + 1) + 1 + (levels + 1) := by
      rw [htestDepth]
      show max inner.depth 0 + 1 + (levels + 1) = _
      rw [hinnerDepth, Nat.max_zero]
    show max test.depth (max 1 1) + 1 = deepest (levels + 1) + levels + 3
    omega

end Cursor

namespace Expr

/-- The parser reads a text with no more than some levels open at once. -/
def TakesLevels (levels : Nat) (source : String) : Prop :=
  ∃ placed tree next, Token.scan source = .ok placed ∧
    Cursor.read (Cursor.expression ⟨placed, source.utf8ByteSize, maxNesting - levels⟩) = .ok (tree, next) ∧
    next.rest = []

variable {source : String} {tree : Expr} {levels : Nat}

theorem parse_eq {placed : List Placed} (hscan : Token.scan source = .ok placed) :
    parse source = ofTokens placed source.utf8ByteSize := by
  rw [parse, hscan]

theorem takesLevels_of_parse (h : parse source = .ok tree) : TakesLevels maxNesting source := by
  cases hscan : Token.scan source with
  | error error => rw [parse, hscan] at h; cases h
  | ok placed =>
    rw [parse_eq hscan, ofTokens_eq] at h
    obtain ⟨⟨found, next⟩, hread, h⟩ := Cursor.bind_eq_ok.1 h
    simp only at h
    split at h
    · rename_i hend
      exact ⟨placed, found, next, hscan, hread, List.isEmpty_iff.1 hend⟩
    · cases h

/-- With fewer levels no other tree is read, since the grammar derives only one, and the levels bound it. -/
theorem depth_le_of_takesLevels (hlevels : levels ≤ maxNesting) (h : parse source = .ok tree)
    (htakes : TakesLevels levels source) : tree.depth ≤ deepest levels := by
  obtain ⟨placed, found, next, hscan, hread, hend⟩ := htakes
  obtain ⟨-, -, hbound⟩ := Cursor.within_expression _ hread
  obtain ⟨ts, htokens, hderives⟩ := Cursor.spans_expression _ hread
  have hall : placed.map (·.token) = ts := by
    have hsplit : placed.map (·.token) = ts ++ next.rest.map (·.token) := htokens
    rwa [hend, List.map_nil, List.append_nil] at hsplit
  have hsame : found = tree := by
    rw [parse_eq hscan] at h
    rcases ofTokens_of_derives (hall ▸ hderives) with hfound | ⟨-, position, herror⟩
    · exact Except.ok.inj (hfound.symm.trans h)
    · exact nomatch herror.symm.trans h
  have hfree : maxNesting - (maxNesting - levels) = levels := Nat.sub_sub_self hlevels
  rw [hsame] at hbound
  exact hfree ▸ hbound

theorem read_deepText {depth : Nat} (h : depth + levels < maxNesting) : ∃ placed tree next,
    Token.scan (deepText levels) = .ok placed ∧
      Cursor.read (Cursor.expression ⟨placed, (deepText levels).utf8ByteSize, depth⟩) = .ok (tree, next) ∧
      next.rest = [] ∧ tree.depth = deepest (levels + 1) := by
  obtain ⟨placed, hscan, hplaced⟩ := scan_deepText levels
  have htokens : Cursor.tokens ⟨placed, (deepText levels).utf8ByteSize, depth⟩ = deepTokens levels ++ [] :=
    hplaced.trans (List.append_nil _).symm
  obtain ⟨tree, next, hread, hnext, hdepth⟩ := Cursor.read_expression_deep htokens ends_nil h
  exact ⟨placed, tree, next, hscan, hread, List.map_eq_nil_iff.1 hnext, hdepth⟩

theorem takesLevels_deepText (h : levels < maxNesting) : TakesLevels (levels + 1) (deepText levels) := by
  have hopen : maxNesting - (levels + 1) + levels < maxNesting := by omega
  obtain ⟨placed, tree, next, hscan, hread, hend, -⟩ := read_deepText hopen
  exact ⟨placed, tree, next, hscan, hread, hend⟩

/-- For every number of levels a text that takes no more has a tree as deep as they allow. -/
theorem parse_deepText (h : levels < maxNesting) :
    ∃ tree, parse (deepText levels) = .ok tree ∧ tree.depth = deepest (levels + 1) := by
  obtain ⟨placed, tree, next, hscan, hread, hend, hdepth⟩ := @read_deepText levels 0 (by omega)
  refine ⟨tree, ?_, hdepth⟩
  rw [parse_eq hscan, ofTokens_eq, hread]
  show (if next.rest.isEmpty then _ else _) = _
  rw [if_pos (List.isEmpty_iff.2 hend)]; rfl

theorem deepest_mono {more : Nat} (h : levels ≤ more) : deepest levels ≤ deepest more := by
  induction h with
  | refl => exact Nat.le_refl _
  | step _ ih =>
    refine Nat.le_trans ih (Nat.le_trans ?_ (le_deepest_succ _))
    omega

/-- No parsed tree is deeper than 33151. It is not deeper than 256 if the parser gets by with 21 levels;
with more levels it can be. -/
theorem parsed_depth_le (h : parse source = .ok tree) : tree.depth ≤ 33151 ∧
    ∀ levels ≤ maxNesting, TakesLevels levels source →
      tree.depth ≤ deepest levels ∧ (levels ≤ 21 → tree.depth ≤ maxNesting) := by
  refine ⟨?_, fun levels hlevels htakes => ?_⟩
  · have hdeepest : deepest maxNesting = 33151 := by
      have hclosed := deepest_closed 255
      show deepest (255 + 1) = 33151
      omega
    rw [← hdeepest]
    exact depth_le_of_takesLevels (Nat.le_refl _) h (takesLevels_of_parse h)
  · have hdepth := depth_le_of_takesLevels hlevels h htakes
    refine ⟨hdepth, fun hfew => Nat.le_trans hdepth (Nat.le_trans (deepest_mono hfew) ?_)⟩
    decide

/-- A text that takes 21 levels, and has the deepest tree of those. -/
theorem parsed_depth_le_nested : ∃ tree, parse (deepText 20) = .ok tree ∧ TakesLevels 21 (deepText 20) ∧
    tree.depth = 251 ∧ tree.depth ≤ 33151 ∧ tree.depth ≤ maxNesting := by
  obtain ⟨tree, hparse, hdepth⟩ := @parse_deepText 20 (by decide)
  have htakes := @takesLevels_deepText 20 (by decide)
  obtain ⟨hall, hlevels⟩ := parsed_depth_le hparse
  exact ⟨tree, hparse, htakes, hdepth.trans rfl, hall, (hlevels 21 (by decide) htakes).2 (by decide)⟩

/-- A text that takes 22 levels has a tree that is 274 deep. -/
theorem parsed_deeper_than_levels : ¬ ∀ source tree, parse source = .ok tree → tree.depth ≤ maxNesting := by
  intro h
  obtain ⟨tree, hparse, hdepth⟩ := @parse_deepText 21 (by decide)
  have hle := h (deepText 21) tree hparse
  rw [hdepth] at hle
  exact absurd hle (by decide)

end Expr

end Formwork
