import Formwork.Expr.Parser

/-!
# What the parser reads

Each procedure of the parser, said without the proofs that it carries along: what it reads (`Cursor.read`)
in terms of what the procedures below it read. A reading leaves fewer tokens than there were
(`Cursor.size_lt_of_read`).
-/

namespace Formwork

namespace Cursor

variable {α β : Type} {bound : Nat}

/-- What was read, and the cursor behind it. -/
def read (result : Except ParseError (Parsed α bound)) : Except ParseError (α × Cursor) :=
  result.map fun parsed => (parsed.value, parsed.next)

/-- The tokens that are left. -/
def tokens (c : Cursor) : List Token := c.rest.map (·.token)

theorem bind_eq_ok {x : Except ParseError α} {f : α → Except ParseError β} {b : β} :
    x >>= f = .ok b ↔ ∃ a, x = .ok a ∧ f a = .ok b := by
  cases x with
  | error error => exact ⟨nofun, nofun⟩
  | ok a => exact ⟨fun h => ⟨a, rfl, h⟩, fun ⟨_, rfl, h⟩ => h⟩

variable {c next : Cursor} {token : Token} {value : α}

theorem size_lt_of_read {result : Except ParseError (Parsed α bound)} (h : read result = .ok (value, next)) :
    next.size < bound := by
  cases result with
  | error error => cases h
  | ok parsed => cases h; exact parsed.shorter

/-! ### Tokens -/

theorem peek?_eq (c : Cursor) : c.peek? = c.tokens.head? := by
  rw [peek?, tokens, List.head?_map]

theorem tokens_advance (h : c.peek? = some token) : c.tokens = token :: c.advance.tokens := by
  obtain ⟨rest, stop, depth⟩ := c
  cases rest with
  | nil => cases h
  | cons first rest => cases h; rfl

@[simp] theorem tokens_deeper (c : Cursor) : c.deeper.tokens = c.tokens := rfl

@[simp] theorem tokens_leave (c : Cursor) (levels : Nat) : (c.leave levels).tokens = c.tokens := rfl

/-! ### Procedures -/

theorem read_expression (c : Cursor) : read (expression c) =
    if c.depth < maxNesting then do
      let (tree, next) ← read (conditional c.deeper)
      return (tree, next.leave 1)
    else c.fail .nesting := by
  rw [expression]
  split
  · cases conditional c.deeper <;> rfl
  · rfl

theorem read_conditional (c : Cursor) : read (conditional c) = do
    let (test, c₁) ← read (logical 0 c)
    if c₁.peek? = some .question then
      let (yes, c₂) ← read (expression c₁.advance)
      if c₂.peek? = some .colon then
        let (no, c₃) ← read (expression c₂.advance)
        return (.conditional test yes no, c₃)
      else c₂.fail (.expected .colon c₂.peek?)
    else return (test, c₁) := by
  rw [conditional]
  cases logical 0 c with
  | error error => rfl
  | ok parsed =>
    obtain ⟨test, c₁, h₁⟩ := parsed
    show read _ = if c₁.peek? = some .question then _ else _
    simp only
    split
    · rename_i hquestion
      rw [if_pos hquestion]
      cases expression c₁.advance with
      | error error => rfl
      | ok parsed =>
        obtain ⟨yes, c₂, h₂⟩ := parsed
        show read _ = if c₂.peek? = some .colon then _ else _
        simp only
        split
        · rename_i hcolon
          rw [if_pos hcolon]
          cases expression c₂.advance <;> rfl
        · rename_i hcolon
          rw [if_neg hcolon]; rfl
    · rename_i hquestion
      rw [if_neg hquestion]; rfl

theorem read_logical (level : Nat) (c : Cursor) :
    read (logical level c) = (do
      let (left, c₁) ← read (unary c)
      read (chain level left 0 c₁)) := by
  rw [logical]
  cases unary c with
  | error error => rfl
  | ok parsed =>
    obtain ⟨left, c₁, h₁⟩ := parsed
    show read _ = read (chain level left 0 c₁)
    simp only
    cases chain level left 0 c₁ <;> rfl

theorem read_chain (level : Nat) (left : Expr) (operators : Nat) (c : Cursor) :
    read (chain level left operators c) =
      match c.peek?.bind Joining.ofToken? with
      | some (tightness, op) =>
        if level ≤ tightness then
          if c.depth < maxNesting then do
            let (right, c₁) ← read (logical (tightness + 1) c.advance.deeper)
            read (chain level (op.join left right) (operators + 1) c₁)
          else c.advance.fail .nesting
        else .ok (left, c.leave operators)
      | none => .ok (left, c.leave operators) := by
  rw [chain]
  split
  · rename_i tightness op hoperator
    simp only [hoperator]
    split
    · split
      · cases logical (tightness + 1) c.advance.deeper with
        | error error => rfl
        | ok parsed =>
          obtain ⟨right, c₁, h₁⟩ := parsed
          show read _ = read (chain level (op.join left right) (operators + 1) c₁)
          simp only
          cases chain level (op.join left right) (operators + 1) c₁ <;> rfl
      · rfl
    · rfl
  · rename_i hnone
    simp only [hnone]; rfl

theorem read_unary (c : Cursor) : read (unary c) =
    match Expr.unaryOp? c.peek? with
    | some op =>
      if c.depth < maxNesting then do
        let (tree, c₁) ← read (unary c.advance.deeper)
        return (.unary op tree, c₁.leave 1)
      else c.advance.fail .nesting
    | none => read (operand c) := by
  rw [unary]
  split
  · rename_i op hop
    simp only [hop]
    split
    · cases unary c.advance.deeper <;> rfl
    · rfl
  · rename_i hnone
    simp only [hnone]

theorem read_operand (c : Cursor) :
    read (operand c) = (do
      let (tree, c₁) ← read (primary c)
      read (segments tree c₁)) := by
  rw [operand]
  cases primary c with
  | error error => rfl
  | ok parsed =>
    obtain ⟨tree, c₁, h₁⟩ := parsed
    show read _ = read (segments tree c₁)
    simp only
    cases segments tree c₁ <;> rfl

theorem read_segments (tree : Expr) (c : Cursor) : read (segments tree c) =
    match c.peek? with
    | some .dot =>
      match c.advance.peek? with
      | some (.ident name) => do
        let tree ← Expr.extend c.advance.advance tree (.field name)
        read (segments tree c.advance.advance)
      | found => c.advance.advance.fail (.expectedField found)
    | some .leftBracket => do
      let (key, c₁) ← read (expression c.advance)
      if c₁.peek? = some .rightBracket then
        let tree ← Expr.extend c₁.advance tree (.index key)
        read (segments tree c₁.advance)
      else c₁.fail (.expected .rightBracket c₁.peek?)
    | some .leftParen => c.fail .notHelper
    | _ => .ok (tree, c) := by
  rw [segments]
  split
  · rename_i hdot
    simp only [hdot]
    cases c.advance.peek? with
    | none => rfl
    | some token =>
      cases token with
      | ident name =>
        simp only
        cases Expr.extend c.advance.advance tree (.field name) with
        | error error => rfl
        | ok tree =>
          show read _ = read (segments tree c.advance.advance)
          simp only
          cases segments tree c.advance.advance <;> rfl
      | _ => rfl
  · rename_i hbracket
    simp only [hbracket]
    cases expression c.advance with
    | error error => rfl
    | ok parsed =>
      obtain ⟨key, c₁, h₁⟩ := parsed
      show read _ = if c₁.peek? = some .rightBracket then _ else _
      simp only
      split
      · rename_i hclose
        rw [if_pos hclose]
        cases Expr.extend c₁.advance tree (.index key) with
        | error error => rfl
        | ok tree =>
          show read _ = read (segments tree c₁.advance)
          simp only
          cases segments tree c₁.advance <;> rfl
      · rename_i hclose
        rw [if_neg hclose]; rfl
  · rename_i hparen
    simp only [hparen]; rfl
  · rename_i hdot hbracket hparen
    split
    · exact absurd ‹_› hdot
    · exact absurd ‹_› hbracket
    · exact absurd ‹_› hparen
    · rfl

theorem read_primary (c : Cursor) : read (primary c) =
    match c.peek? with
    | some (.number value) => .ok (.literal (.ofArithmetic value), c.advance)
    | some (.str text) => .ok (.literal (.str text), c.advance)
    | some .leftParen => do
      let (tree, c₁) ← read (expression c.advance)
      if c₁.peek? = some .rightParen then return (tree, c₁.advance)
      else c₁.fail (.expected .rightParen c₁.peek?)
    | some .leftBracket => do
      let (items, c₁) ← read (arguments .rightBracket c.advance)
      if items.length ≤ maxArrayLiteral then return (.array items, c₁)
      else c.fail .longArray
    | some (.ident word) =>
      match Expr.literalWord? word with
      | some value => .ok (.literal value, c.advance)
      | none =>
        if Expr.reservedWords.contains word then c.fail (.reserved word)
        else
          match Root.ofName? word with
          | some root => .ok (.path root [], c.advance)
          | none =>
            if c.advance.peek? = some .leftParen then
              match Helper.ofName? word with
              | none => c.fail (.unknownHelper word)
              | some helper => do
                let (items, c₁) ← read (arguments .rightParen c.advance.advance)
                if helper.arity.1 ≤ items.length && items.length ≤ helper.arity.2 then
                  return (.call helper items, c₁)
                else c.fail (.arity word helper.arity.1 helper.arity.2 items.length)
            else c.fail (.unknownIdentifier word)
    | found => c.fail (.unexpectedToken found) := by
  rw [primary]
  split
  · rename_i htoken
    simp only [htoken]; rfl
  · rename_i htoken
    simp only [htoken]; rfl
  · rename_i htoken
    simp only [htoken]
    cases expression c.advance with
    | error error => rfl
    | ok parsed =>
      obtain ⟨tree, c₁, h₁⟩ := parsed
      show read _ = if c₁.peek? = some .rightParen then _ else _
      simp only
      split
      · rename_i hclose
        rw [if_pos hclose]; rfl
      · rename_i hclose
        rw [if_neg hclose]; rfl
  · rename_i htoken
    simp only [htoken]
    cases arguments .rightBracket c.advance with
    | error error => rfl
    | ok parsed =>
      obtain ⟨items, c₁, h₁⟩ := parsed
      show read _ = if items.length ≤ maxArrayLiteral then _ else _
      simp only
      split <;> rfl
  · rename_i word htoken
    simp only [htoken]
    cases Expr.literalWord? word with
    | some value => rfl
    | none =>
      simp only
      split
      · rfl
      cases Root.ofName? word with
      | some root => rfl
      | none =>
        simp only
        split
        · cases Helper.ofName? word with
          | none => rfl
          | some helper =>
            simp only
            cases arguments .rightParen c.advance.advance with
            | error error => rfl
            | ok parsed =>
              obtain ⟨items, c₁, h₁⟩ := parsed
              show read _ = if (_ && _) = true then _ else _
              simp only
              split <;> rfl
        · rfl
  · rename_i hnumber hstr hparen hbracket hident
    split
    · exact absurd ‹_› (hnumber _)
    · exact absurd ‹_› (hstr _)
    · exact absurd ‹_› hparen
    · exact absurd ‹_› hbracket
    · exact absurd ‹_› (hident _)
    · rfl

theorem read_arguments (close : Token) (c : Cursor) : read (arguments close c) =
    if c.peek? = some close then .ok ([], c.advance) else read (moreArguments close c) := by
  rw [arguments]
  split <;> rfl

theorem read_moreArguments (close : Token) (c : Cursor) :
    read (moreArguments close c) = (do
      let (item, c₁) ← read (expression c)
      if c₁.peek? = some close then return ([item], c₁.advance)
      else if c₁.peek? = some .comma then
        let (items, c₂) ← read (moreArguments close c₁.advance)
        return (item :: items, c₂)
      else c₁.fail (.expected .comma c₁.peek?)) := by
  rw [moreArguments]
  cases expression c with
  | error error => rfl
  | ok parsed =>
    obtain ⟨item, c₁, h₁⟩ := parsed
    show read _ = if c₁.peek? = some close then _ else _
    simp only
    split
    · rfl
    split
    · cases moreArguments close c₁.advance <;> rfl
    · rfl

end Cursor

end Formwork
