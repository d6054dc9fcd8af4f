import Formwork.Expr.Eval
import Formwork.Proofs.Expr.Completeness
import Formwork.Proofs.Expr.Soundness

/-!
# Parsed texts

A text is parsed as the tree that the grammar derives from its tokens. It follows that the grammar
derives no other tree from them, and that all that it derives is parsed unless it is nested too deep
(`Expr.parses_exactly`).
-/

namespace Formwork

open Grammar

namespace Expr

variable {source : String} {placed : List Placed} {stop : Nat} {tree : Expr}

theorem ofTokens_eq (placed : List Placed) (stop : Nat) :
    ofTokens placed stop = (do
      let (tree, c) ← Cursor.read (Cursor.expression ⟨placed, stop, 0⟩)
      if c.rest.isEmpty then return tree else c.fail (.trailingToken c.peek?)) := by
  rw [ofTokens]
  cases Cursor.expression ⟨placed, stop, 0⟩ <;> rfl

theorem derives_of_ofTokens (h : ofTokens placed stop = .ok tree) :
    Derives .expression (placed.map (·.token)) tree := by
  rw [ofTokens_eq] at h
  obtain ⟨⟨tree, c⟩, hread, h⟩ := Cursor.bind_eq_ok.1 h
  obtain ⟨ts, htokens, hderives⟩ := Cursor.spans_expression _ hread
  simp only at h
  split at h
  · rename_i hend
    cases h
    have hnone : c.tokens = [] := by rw [Cursor.tokens, List.isEmpty_iff.1 hend]; rfl
    have hall : placed.map (·.token) = ts ++ c.tokens := htokens
    rwa [hall, hnone, List.append_nil]
  · cases h

theorem ofTokens_of_derives (h : Derives .expression (placed.map (·.token)) tree) :
    ofTokens placed stop = .ok tree ∨
      maxNesting ≤ placed.length ∧ ∃ position, ofTokens placed stop = .error ⟨position, .nesting⟩ := by
  rw [ofTokens_eq]
  rcases Cursor.complete h ⟨placed, stop, 0⟩ [] (List.append_nil _).symm ends_nil with
    ⟨hdeep, position, hread⟩ | ⟨next, hread, hrest, -⟩
  · refine .inr ⟨?_, position, by rw [hread]; rfl⟩
    have hload : Cursor.load ⟨placed, stop, 0⟩ = placed.length := Nat.zero_add _
    rw [hload] at hdeep
    exact Nat.le_of_lt_succ hdeep
  · have hend : next.rest.isEmpty = true := List.isEmpty_iff.2 (List.map_eq_nil_iff.1 hrest)
    left
    rw [hread]
    show (if next.rest.isEmpty then _ else _) = _
    rw [if_pos hend]; rfl

/-! ### Paths to one answer -/

theorem derives_field (name : String) :
    Derives (.level 8) [.ident "data", .dot, .ident name] (.path .data [.field name]) :=
  ((Derives.whole (.root .data)).field name).bare.single

/-- The tokens `data`, dot and a name are read as the answer of that name, wherever they stand. -/
theorem ofTokens_field (name : String) (i j k stop : Nat) :
    ofTokens [⟨.ident "data", i⟩, ⟨.dot, j⟩, ⟨.ident name, k⟩] stop = .ok (.path .data [.field name]) := by
  have hderives : Derives .expression
      (List.map Placed.token [⟨.ident "data", i⟩, ⟨.dot, j⟩, ⟨.ident name, k⟩]) (.path .data [.field name]) :=
    .unconditional ((derives_field name).loosen (by decide))
  rcases ofTokens_of_derives hderives with hparse | ⟨hlong, -⟩
  · exact hparse
  · exact absurd hlong (Nat.not_le_of_lt (by decide : 3 < maxNesting))

/-- The word for a value is read as that value, wherever it stands. -/
theorem ofTokens_constant {word : String} {value : Json} (h : Constant word value) (i stop : Nat) :
    ofTokens [⟨.ident word, i⟩] stop = .ok (.literal value) := by
  have hderives : Derives .expression (List.map Placed.token [⟨.ident word, i⟩]) (.literal value) :=
    .unconditional ((Derives.whole (.constant h)).bare.single.loosen (by decide))
  rcases ofTokens_of_derives hderives with hparse | ⟨hlong, -⟩
  · exact hparse
  · exact absurd hlong (Nat.not_le_of_lt (by decide : 1 < maxNesting))

end Expr

/-- A text of these tokens is parsed as the path to an answer. -/
theorem Expression.parse_field {source name : String} {i j k : Nat}
    (h : (Token.scan source).toOption = some [⟨.ident "data", i⟩, ⟨.dot, j⟩, ⟨.ident name, k⟩]) :
    Expression.parse source = ⟨source, .ok (.path .data [.field name])⟩ := by
  rw [Expression.parse, Expr.parse]
  cases hscan : Token.scan source with
  | error error => rw [hscan] at h; cases h
  | ok tokens =>
    rw [hscan] at h; cases h
    simp only [Expr.ofTokens_field]

/-- A text of one token, the word for a value, is parsed as that value. -/
theorem Expression.parse_constant {source word : String} {value : Json} {i : Nat}
    (hscan : (Token.scan source).toOption = some [⟨.ident word, i⟩]) (h : Constant word value) :
    Expression.parse source = ⟨source, .ok (.literal value)⟩ := by
  rw [Expression.parse, Expr.parse]
  cases htokens : Token.scan source with
  | error error => rw [htokens] at hscan; cases hscan
  | ok tokens =>
    rw [htokens] at hscan; cases hscan
    simp only [Expr.ofTokens_constant h]

namespace Expr

variable {source : String} {placed : List Placed}

/-! ### Any text -/

/-- What is parsed is what the grammar derives from the tokens, and it is all that the grammar derives.
What the grammar derives is parsed, unless it is nested too deep, for which it takes many tokens. -/
theorem parses_exactly (hscan : Token.scan source = .ok placed) :
    (∀ tree, parse source = .ok tree → Derives .expression (placed.map (·.token)) tree ∧
      ∀ other, Derives .expression (placed.map (·.token)) other → other = tree) ∧
    ∀ tree, Derives .expression (placed.map (·.token)) tree → parse source = .ok tree ∨
      maxNesting ≤ placed.length ∧ ∃ position, parse source = .error ⟨position, .nesting⟩ := by
  have hparse : parse source = ofTokens placed source.utf8ByteSize := by rw [parse, hscan]
  rw [hparse]
  refine ⟨fun tree htree => ⟨derives_of_ofTokens htree, fun other hother => ?_⟩,
    fun tree hderives => ofTokens_of_derives hderives⟩
  rcases ofTokens_of_derives hother with hok | ⟨-, position, herror⟩
  · exact Except.ok.inj (hok.symm.trans htree)
  · exact nomatch herror.symm.trans htree

/-- Differences are taken from the left, and in no other way. -/
theorem parses_exactly_differences : ∃ placed, Token.scan "data.a-data.b-data.c" = .ok placed ∧
    let difference := Expr.binary .sub
      (.binary .sub (.path .data [.field "a"]) (.path .data [.field "b"])) (.path .data [.field "c"])
    parse "data.a-data.b-data.c" = .ok difference ∧
      ∀ other, Derives .expression (placed.map (·.token)) other → other = difference := by
  have hpath : ∀ name, Derives (.level 7) [.ident "data", .dot, .ident name] (.path .data [.field name]) :=
    fun name => (derives_field name).tighter
  have hinner := Derives.joined .sub (hpath "a").tighter (hpath "b")
  have hderives := Derives.unconditional ((Derives.joined .sub hinner (hpath "c")).loosen (by decide : 1 ≤ 6))
  have hscan : (Token.scan "data.a-data.b-data.c").toOption = some
      [⟨.ident "data", 0⟩, ⟨.dot, 4⟩, ⟨.ident "a", 5⟩, ⟨.minus, 6⟩, ⟨.ident "data", 7⟩, ⟨.dot, 11⟩,
        ⟨.ident "b", 12⟩, ⟨.minus, 13⟩, ⟨.ident "data", 14⟩, ⟨.dot, 18⟩, ⟨.ident "c", 19⟩] := by
    decide +kernel
  cases h : Token.scan "data.a-data.b-data.c" with
  | error error => rw [h] at hscan; cases hscan
  | ok placed =>
    rw [h] at hscan; cases hscan
    rcases (parses_exactly h).2 _ hderives with hparse | ⟨hlong, -⟩
    · exact ⟨_, rfl, hparse, ((parses_exactly h).1 _ hparse).2⟩
    · exact absurd hlong (by decide)

end Expr

end Formwork
