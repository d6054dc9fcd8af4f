import Formwork.Expr.Parser

/-!
# The grammar of rule expressions

`Grammar.Derives` says which tokens are an expression, and of which tree, stratum by stratum and with no
order in which they are read. Operators of one level are joined from the left: the left part is of the
level of the operator and the right one of the next tighter level.
-/

namespace Formwork

namespace Grammar

/-- The strata of the grammar. -/
inductive Stratum where
  | expression
  /-- Parts joined by operators of a level or of tighter ones. There are seven levels, from the loosest
  to the tightest; a part without any operator is of level 8. -/
  | level (n : Nat)
  | unary
  | operand
  | primary

/-- The operators of each level. -/
inductive Joins : Nat → Token → Joining → Prop
  | or : Joins 1 .orOr (.logical .or)
  | and : Joins 2 .andAnd (.logical .and)
  | nullish : Joins 3 .nullish (.logical .nullish)
  | eq : Joins 4 .eqEq (.binary .eq)
  | notEq : Joins 4 .notEq (.binary .notEq)
  | strictEq : Joins 4 .strictEq (.binary .strictEq)
  | strictNotEq : Joins 4 .strictNotEq (.binary .strictNotEq)
  | lt : Joins 5 .lt (.binary .lt)
  | le : Joins 5 .le (.binary .le)
  | gt : Joins 5 .gt (.binary .gt)
  | ge : Joins 5 .ge (.binary .ge)
  | add : Joins 6 .plus (.binary .add)
  | sub : Joins 6 .minus (.binary .sub)
  | mul : Joins 7 .star (.binary .mul)
  | div : Joins 7 .slash (.binary .div)
  | rem : Joins 7 .percent (.binary .rem)

/-- The operators before an operand. -/
inductive Precedes : Token → UnaryOp → Prop
  | not : Precedes .bang .not
  | negate : Precedes .minus .negate

/-- The words that stand for a value. -/
inductive Constant : String → Json → Prop
  | yes : Constant "true" (.bool true)
  | no : Constant "false" (.bool false)
  | null : Constant "null" .null
  | undefined : Constant "undefined" .null

/-- The tokens of expressions between commas. -/
def separated (items : List (List Token × Expr)) : List Token := [Token.comma].intercalate (items.map (·.1))

/-- Tokens that are of a stratum, and their tree. -/
inductive Derives : Stratum → List Token → Expr → Prop
  | conditional {ts us vs : List Token} {test yes no : Expr} : Derives (.level 1) ts test →
    Derives .expression us yes → Derives .expression vs no →
    Derives .expression (ts ++ .question :: us ++ .colon :: vs) (.conditional test yes no)
  | unconditional {ts : List Token} {tree : Expr} : Derives (.level 1) ts tree → Derives .expression ts tree
  | joined {n : Nat} {token : Token} {op : Joining} {ts us : List Token} {left right : Expr} :
    Joins n token op → Derives (.level n) ts left → Derives (.level (n + 1)) us right →
    Derives (.level n) (ts ++ token :: us) (op.join left right)
  | tighter {n : Nat} {ts : List Token} {tree : Expr} :
    Derives (.level (n + 1)) ts tree → Derives (.level n) ts tree
  | single {ts : List Token} {tree : Expr} : Derives .unary ts tree → Derives (.level 8) ts tree
  | unary {token : Token} {op : UnaryOp} {ts : List Token} {tree : Expr} : Precedes token op →
    Derives .unary ts tree → Derives .unary (token :: ts) (.unary op tree)
  | bare {ts : List Token} {tree : Expr} : Derives .operand ts tree → Derives .unary ts tree
  | field {ts : List Token} {root : Root} {segments : List Segment} (name : String) :
    Derives .operand ts (.path root segments) →
    Derives .operand (ts ++ [.dot, .ident name]) (.path root (segments ++ [.field name]))
  | index {ts us : List Token} {root : Root} {segments : List Segment} {key : Expr} :
    Derives .operand ts (.path root segments) → Derives .expression us key →
    Derives .operand (ts ++ .leftBracket :: us ++ [.rightBracket]) (.path root (segments ++ [.index key]))
  | whole {ts : List Token} {tree : Expr} : Derives .primary ts tree → Derives .operand ts tree
  | number (value : Float) : Derives .primary [.number value] (.literal (.ofArithmetic value))
  | text (text : String) : Derives .primary [.str text] (.literal (.str text))
  | constant {word : String} {value : Json} : Constant word value →
    Derives .primary [.ident word] (.literal value)
  | root (root : Root) : Derives .primary [.ident root.name] (.path root [])
  | call (helper : Helper) (items : List (List Token × Expr)) :
    (∀ item ∈ items, Derives .expression item.1 item.2) →
    helper.arity.1 ≤ items.length → items.length ≤ helper.arity.2 →
    Derives .primary (.ident helper.name :: .leftParen :: separated items ++ [.rightParen])
      (.call helper (items.map (·.2)))
  | array (items : List (List Token × Expr)) :
    (∀ item ∈ items, Derives .expression item.1 item.2) → items.length ≤ maxArrayLiteral →
    Derives .primary (.leftBracket :: separated items ++ [.rightBracket]) (.array (items.map (·.2)))
  | parentheses {ts : List Token} {tree : Expr} : Derives .expression ts tree →
    Derives .primary (.leftParen :: ts ++ [.rightParen]) tree

/-! ### The tables of the parser -/

variable {n m : Nat} {token : Token} {op : Joining} {ts : List Token} {tree : Expr}

theorem joins_iff : Joins n token op ↔ Joining.ofToken? token = some (n, op) := by
  constructor
  · intro h
    cases h <;> rfl
  · intro h
    cases token <;> cases h <;> constructor

theorem Joins.bounds (h : Joins n token op) : 1 ≤ n ∧ n ≤ 7 := by
  cases h <;> decide

theorem precedes_iff {op : UnaryOp} : Precedes token op ↔ Expr.unaryOp? (some token) = some op := by
  constructor
  · intro h
    cases h <;> rfl
  · intro h
    cases token <;> cases h <;> constructor

theorem constant_iff {word : String} {value : Json} :
    Constant word value ↔ Expr.literalWord? word = some value := by
  constructor
  · intro h
    cases h <;> rfl
  · simp only [Expr.literalWord?, Bool.or_eq_true, decide_eq_true_eq]
    intro h
    split at h
    · rename_i hword; cases h; exact hword ▸ .yes
    split at h
    · rename_i hword; cases h; exact hword ▸ .no
    split at h
    · rename_i hword; cases h
      rcases hword with rfl | rfl
      · exact .null
      · exact .undefined
    · cases h

/-! ### Tokens between commas -/

section

variable {first second : List Token × Expr} {rest : List (List Token × Expr)}

theorem separated_singleton : separated [first] = first.1 := by
  simp [separated, List.intercalate]

theorem separated_cons :
    separated (first :: second :: rest) = first.1 ++ .comma :: separated (second :: rest) := by
  simp [separated, List.intercalate]

theorem separated_eq_append (first : List Token × Expr) (rest : List (List Token × Expr)) :
    ∃ others, separated (first :: rest) = first.1 ++ others := by
  cases rest with
  | nil => exact ⟨[], by rw [separated_singleton, List.append_nil]⟩
  | cons second rest => exact ⟨_, separated_cons⟩

end

/-! ### Levels -/

namespace Derives

theorem loosen (h : Derives (.level m) ts tree) (hle : n ≤ m) : Derives (.level n) ts tree := by
  induction hle with
  | refl => exact h
  | step _ ih => exact ih h.tighter

/-- No operator is looser than those of the first level. -/
theorem first_level (h : Derives (.level 0) ts tree) : Derives (.level 1) ts tree := by
  cases h with
  | joined hjoins _ _ => exact absurd hjoins.bounds.1 (by decide)
  | tighter h => exact h

/-- There is a first token, and it is no closing one. -/
theorem exists_first {stratum : Stratum} (h : Derives stratum ts tree) :
    ∃ first rest, ts = first :: rest ∧ first ≠ .rightParen ∧ first ≠ .rightBracket := by
  induction h with
  | conditional _ _ _ ih _ _ | joined _ _ _ ih _ | field _ _ ih | index _ _ ih _ =>
    obtain ⟨first, rest, rfl, hfirst⟩ := ih
    exact ⟨first, _, rfl, hfirst⟩
  | unconditional _ ih | tighter _ ih | single _ ih | bare _ ih | whole _ ih => exact ih
  | unary hprecedes _ _ => cases hprecedes <;> exact ⟨_, _, rfl, nofun, nofun⟩
  | number | text | constant | root | call | array | parentheses => exact ⟨_, _, rfl, nofun, nofun⟩

/-- An operand does not start with an operator. -/
theorem operand_first {stratum : Stratum} (h : Derives stratum ts tree)
    (hstratum : stratum = .operand ∨ stratum = .primary) :
    ∃ first rest, ts = first :: rest ∧ Expr.unaryOp? (some first) = none := by
  induction h with
  | field _ _ ih | index _ _ ih _ =>
    obtain ⟨first, rest, rfl, hfirst⟩ := ih (.inl rfl)
    exact ⟨first, _, rfl, hfirst⟩
  | whole _ ih => exact ih (.inr rfl)
  | number | text | constant | root | call | array | parentheses => exact ⟨_, _, rfl, rfl⟩
  | _ => simp at hstratum

end Derives

end Grammar

end Formwork
