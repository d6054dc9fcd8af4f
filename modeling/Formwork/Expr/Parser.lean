import Formwork.Expr.Lexer
import Formwork.Expr.Tree

/-!
# Parsing rule expressions

A recursive descent over the tokens, one procedure for each stratum of the grammar. Each procedure
says that it leaves fewer tokens than it found (`Parsed`), which is why parsing ends. The cursor
counts the levels that are open: one for every expression inside another one, for every unary
operator, and for every operator of a chain until the chain ends.
-/

namespace Formwork

/-- The tokens that are left, the offset where the expression ends, and the open levels. -/
structure Cursor where
  rest : List Placed
  stop : Nat
  depth : Nat

namespace Cursor

/-- How many tokens are left. -/
def size (c : Cursor) : Nat := c.rest.length

/-- The next token; none at the end. -/
def peek? (c : Cursor) : Option Token := c.rest.head?.map (·.token)

/-- The offset of the next token or of the end. -/
def position (c : Cursor) : Nat := (c.rest.head?.map (·.position)).getD c.stop

/-- Passes over the next token. -/
def advance (c : Cursor) : Cursor := { c with rest := c.rest.tail }

/-- Opens a level. -/
def deeper (c : Cursor) : Cursor := { c with depth := c.depth + 1 }

/-- Closes levels. -/
def leave (c : Cursor) (levels : Nat) : Cursor := { c with depth := c.depth - levels }

/-- The error of a fault at the next token. -/
def fail {α : Type} (c : Cursor) (fault : ParseFault) : Except ParseError α :=
  .error ⟨c.position, fault⟩

theorem size_advance_le (c : Cursor) : c.advance.size ≤ c.size := by
  simp [advance, size]

theorem size_advance_lt {c : Cursor} {token : Token} (h : c.peek? = some token) :
    c.advance.size < c.size := by
  obtain ⟨rest, stop, depth⟩ := c
  cases rest with
  | nil => simp [peek?] at h
  | cons head tail => simp [advance, size]

end Cursor

/-- What a procedure has read, and the cursor behind it with fewer than `bound` tokens. -/
structure Parsed (α : Type) (bound : Nat) where
  value : α
  next : Cursor
  shorter : next.size < bound

/-- The levels of the operators that join two operands, from the loosest to the tightest. -/
inductive Joining where
  | logical (op : LogicalOp)
  | binary (op : BinaryOp)
deriving Repr, DecidableEq

namespace Joining

/-- The operator that a token is between two operands, and its level. -/
def ofToken? : Token → Option (Nat × Joining)
  | .orOr => some (1, .logical .or)
  | .andAnd => some (2, .logical .and)
  | .nullish => some (3, .logical .nullish)
  | .eqEq => some (4, .binary .eq)
  | .notEq => some (4, .binary .notEq)
  | .strictEq => some (4, .binary .strictEq)
  | .strictNotEq => some (4, .binary .strictNotEq)
  | .lt => some (5, .binary .lt)
  | .le => some (5, .binary .le)
  | .gt => some (5, .binary .gt)
  | .ge => some (5, .binary .ge)
  | .plus => some (6, .binary .add)
  | .minus => some (6, .binary .sub)
  | .star => some (7, .binary .mul)
  | .slash => some (7, .binary .div)
  | .percent => some (7, .binary .rem)
  | _ => none

/-- Joins two operands. -/
def join : Joining → Expr → Expr → Expr
  | .logical op, left, right => .logical op left right
  | .binary op, left, right => .binary op left right

end Joining

namespace Expr

/-- The words that stand for statements elsewhere and are refused. -/
def reservedWords : List String :=
  ["function", "new", "for", "while", "let", "var", "const", "return"]

/-- The value of a word that is a literal. -/
def literalWord? (word : String) : Option Json :=
  if word = "true" then some (.bool true)
  else if word = "false" then some (.bool false)
  else if word = "null" || word = "undefined" then some .null
  else none

/-- The unary operator that a token is before an operand. -/
def unaryOp? : Option Token → Option UnaryOp
  | some .bang => some .not
  | some .minus => some .negate
  | _ => none

/-- A path with one more segment. Nothing else has segments; the fault lies at `c`. -/
def extend (c : Cursor) (tree : Expr) (segment : Segment) : Except ParseError Expr :=
  match tree with
  | .path root segments => .ok (.path root (segments ++ [segment]))
  | _ => c.fail .memberAccess

end Expr

namespace Cursor

mutual

/-- An expression, one level deeper. -/
def expression (c : Cursor) : Except ParseError (Parsed Expr c.size) :=
  if c.depth < maxNesting then
    match conditional c.deeper with
    | .error error => .error error
    | .ok ⟨tree, next, shorter⟩ => .ok ⟨tree, next.leave 1, shorter⟩
  else c.fail .nesting
termination_by (c.size, 6)

/-- A chain of operators, or a condition with two expressions to choose from. -/
def conditional (c : Cursor) : Except ParseError (Parsed Expr c.size) :=
  match logical 0 c with
  | .error error => .error error
  | .ok ⟨test, c₁, h₁⟩ =>
    match question : c₁.peek? with
    | some .question =>
      have h₂ := c₁.size_advance_lt question
      match expression c₁.advance with
      | .error error => .error error
      | .ok ⟨yes, c₂, h₃⟩ =>
        match colon : c₂.peek? with
        | some .colon =>
          have h₄ := c₂.size_advance_lt colon
          match expression c₂.advance with
          | .error error => .error error
          | .ok ⟨no, c₃, h₅⟩ => .ok ⟨.conditional test yes no, c₃, by omega⟩
        | found => c₂.fail (.expected .colon found)
    | _ => .ok ⟨test, c₁, h₁⟩
termination_by (c.size, 5)

/-- Operands joined by operators of a level or tighter ones. -/
def logical (level : Nat) (c : Cursor) : Except ParseError (Parsed Expr c.size) :=
  match unary c with
  | .error error => .error error
  | .ok ⟨left, c₁, h₁⟩ =>
    match chain level left 0 c₁ with
    | .error error => .error error
    | .ok ⟨tree, c₂, h₂⟩ => .ok ⟨tree, c₂, by omega⟩
termination_by (c.size, 4)

/-- The rest of a chain, after its left part and some operators. -/
def chain (level : Nat) (left : Expr) (operators : Nat) (c : Cursor) :
    Except ParseError (Parsed Expr (c.size + 1)) :=
  match operator : c.peek?.bind Joining.ofToken? with
  | some (tightness, op) =>
    if level ≤ tightness then
      have h₁ : c.advance.size < c.size := by
        obtain ⟨token, h, -⟩ := Option.bind_eq_some_iff.1 operator
        exact c.size_advance_lt h
      if c.depth < maxNesting then
        match logical (tightness + 1) c.advance.deeper with
        | .error error => .error error
        | .ok ⟨right, c₁, h₂⟩ =>
          have h₃ : c₁.size < c.size := Nat.lt_trans h₂ h₁
          match chain level (op.join left right) (operators + 1) c₁ with
          | .error error => .error error
          | .ok ⟨tree, c₂, h₄⟩ => .ok ⟨tree, c₂, by omega⟩
      else c.advance.fail .nesting
    else .ok ⟨left, c.leave operators, Nat.lt_succ_self _⟩
  | none => .ok ⟨left, c.leave operators, Nat.lt_succ_self _⟩
termination_by (c.size, 7)

/-- An operand with its unary operators, each one level deeper. -/
def unary (c : Cursor) : Except ParseError (Parsed Expr c.size) :=
  match operator : Expr.unaryOp? c.peek? with
  | some op =>
    have h₁ : c.advance.size < c.size := by
      cases h : c.peek? with
      | none => simp [h, Expr.unaryOp?] at operator
      | some token => exact c.size_advance_lt h
    if c.depth < maxNesting then
      match unary c.advance.deeper with
      | .error error => .error error
      | .ok ⟨operand, c₁, h₂⟩ => .ok ⟨.unary op operand, c₁.leave 1, Nat.lt_trans h₂ h₁⟩
    else c.advance.fail .nesting
  | none => operand c
termination_by (c.size, 3)

/-- A primary with the segments behind it. -/
def operand (c : Cursor) : Except ParseError (Parsed Expr c.size) :=
  match primary c with
  | .error error => .error error
  | .ok ⟨tree, c₁, h₁⟩ =>
    match segments tree c₁ with
    | .error error => .error error
    | .ok ⟨tree, c₂, h₂⟩ => .ok ⟨tree, c₂, by omega⟩
termination_by (c.size, 2)

/-- The segments behind a path. -/
def segments (tree : Expr) (c : Cursor) : Except ParseError (Parsed Expr (c.size + 1)) :=
  match token : c.peek? with
  | some .dot =>
    have h₁ := c.size_advance_lt token
    match c.advance.peek? with
    | some (.ident name) =>
      have h₂ := c.advance.size_advance_le
      match Expr.extend c.advance.advance tree (.field name) with
      | .error error => .error error
      | .ok tree =>
        match segments tree c.advance.advance with
        | .error error => .error error
        | .ok ⟨tree, c₁, h₃⟩ => .ok ⟨tree, c₁, by omega⟩
    | found => c.advance.advance.fail (.expectedField found)
  | some .leftBracket =>
    have h₁ := c.size_advance_lt token
    match expression c.advance with
    | .error error => .error error
    | .ok ⟨key, c₁, h₂⟩ =>
      match c₁.peek? with
      | some .rightBracket =>
        have h₃ := c₁.size_advance_le
        match Expr.extend c₁.advance tree (.index key) with
        | .error error => .error error
        | .ok tree =>
          match segments tree c₁.advance with
          | .error error => .error error
          | .ok ⟨tree, c₂, h₄⟩ => .ok ⟨tree, c₂, by omega⟩
      | found => c₁.fail (.expected .rightBracket found)
  | some .leftParen => c.fail .notHelper
  | _ => .ok ⟨tree, c, Nat.lt_succ_self _⟩
termination_by (c.size, 1)

/-- A literal, a root, a call, an array, or an expression in parentheses. -/
def primary (c : Cursor) : Except ParseError (Parsed Expr c.size) :=
  match token : c.peek? with
  | some (.number value) =>
    .ok ⟨.literal (.ofArithmetic value), c.advance, c.size_advance_lt token⟩
  | some (.str text) => .ok ⟨.literal (.str text), c.advance, c.size_advance_lt token⟩
  | some .leftParen =>
    have h₁ := c.size_advance_lt token
    match expression c.advance with
    | .error error => .error error
    | .ok ⟨tree, c₁, h₂⟩ =>
      match c₁.peek? with
      | some .rightParen =>
        have h₃ := c₁.size_advance_le
        .ok ⟨tree, c₁.advance, by omega⟩
      | found => c₁.fail (.expected .rightParen found)
  | some .leftBracket =>
    have h₁ := c.size_advance_lt token
    match arguments .rightBracket c.advance with
    | .error error => .error error
    | .ok ⟨items, c₁, h₂⟩ =>
      if items.length ≤ maxArrayLiteral then .ok ⟨.array items, c₁, by omega⟩
      else c.fail .longArray
  | some (.ident word) =>
    have h₁ := c.size_advance_lt token
    match Expr.literalWord? word with
    | some value => .ok ⟨.literal value, c.advance, h₁⟩
    | none =>
      if Expr.reservedWords.contains word then c.fail (.reserved word)
      else
        match Root.ofName? word with
        | some root => .ok ⟨.path root [], c.advance, h₁⟩
        | none =>
          if c.advance.peek? = some .leftParen then
            match Helper.ofName? word with
            | none => c.fail (.unknownHelper word)
            | some helper =>
              have h₂ := c.advance.size_advance_le
              match arguments .rightParen c.advance.advance with
              | .error error => .error error
              | .ok ⟨items, c₁, h₃⟩ =>
                let (least, greatest) := helper.arity
                if least ≤ items.length && items.length ≤ greatest then
                  .ok ⟨.call helper items, c₁, by omega⟩
                else c.fail (.arity word least greatest items.length)
          else c.fail (.unknownIdentifier word)
  | found => c.fail (.unexpectedToken found)
termination_by (c.size, 0)

/-- Expressions between commas, up to and with the closing token. -/
def arguments (close : Token) (c : Cursor) : Except ParseError (Parsed (List Expr) c.size) :=
  if closes : c.peek? = some close then .ok ⟨[], c.advance, c.size_advance_lt closes⟩
  else moreArguments close c
termination_by (c.size, 8)

/-- Expressions between commas, at least one, up to and with the closing token. -/
def moreArguments (close : Token) (c : Cursor) : Except ParseError (Parsed (List Expr) c.size) :=
  match expression c with
  | .error error => .error error
  | .ok ⟨item, c₁, h₁⟩ =>
    if closes : c₁.peek? = some close then
      have h₂ := c₁.size_advance_lt closes
      .ok ⟨[item], c₁.advance, by omega⟩
    else if comma : c₁.peek? = some .comma then
      have h₂ := c₁.size_advance_lt comma
      match moreArguments close c₁.advance with
      | .error error => .error error
      | .ok ⟨items, c₂, h₃⟩ => .ok ⟨item :: items, c₂, by omega⟩
    else c₁.fail (.expected .comma c₁.peek?)
termination_by (c.size, 7)

end

end Cursor

namespace Expr

/-- The tree of some tokens that end at an offset. -/
def ofTokens (tokens : List Placed) (stop : Nat) : Except ParseError Expr :=
  match Cursor.expression ⟨tokens, stop, 0⟩ with
  | .error error => .error error
  | .ok ⟨tree, c, _⟩ => if c.rest.isEmpty then .ok tree else c.fail (.trailingToken c.peek?)

/-- The tree of an expression. -/
def parse (source : String) : Except ParseError Expr :=
  match Token.scan source with
  | .error error => .error error
  | .ok tokens => ofTokens tokens source.utf8ByteSize

end Expr

end Formwork
