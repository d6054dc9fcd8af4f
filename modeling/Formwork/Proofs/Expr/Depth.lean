import Formwork.Proofs.Expr.Soundness

/-!
# How deep a parsed tree is

The parser closes every level that it has opened, so behind an expression as many are free as before it
(`Cursor.Within`). The levels bound the depth of its tree, but not one to one. The operators of a chain open
a level each for what follows them, and only then does the tree grow above what they follow: the first
operand, which has all the levels that the chain has, comes to lie below all its operators. The test of a
conditional comes to lie below that in the same way. So one level more allows as many nodes more as there are
levels (`Expr.deepest`).
-/

namespace Formwork

namespace Expr

mutual

/-- The greatest number of operators, conditionals, calls, arrays and paths on a way down from the root of a
tree, which leads into the index expressions of paths too. -/
def depth : Expr → Nat
  | .literal _ => 0
  | .path _ segments => depthOfSegments segments + 1
  | .unary _ operand => operand.depth + 1
  | .binary _ left right | .logical _ left right => max left.depth right.depth + 1
  | .conditional test yes no => max test.depth (max yes.depth no.depth) + 1
  | .call _ items | .array items => depthOfItems items + 1

def depthOfItems : List Expr → Nat
  | [] => 0
  | item :: rest => max item.depth (depthOfItems rest)

def depthOfSegments : List Segment → Nat
  | [] => 0
  | .field _ :: rest => depthOfSegments rest
  | .index key :: rest => max key.depth (depthOfSegments rest)

end

theorem depth_join (op : Joining) (left right : Expr) :
    (op.join left right).depth = max left.depth right.depth + 1 := by
  cases op <;> rfl

theorem depthOfSegments_append (segments more : List Segment) :
    depthOfSegments (segments ++ more) = max (depthOfSegments segments) (depthOfSegments more) := by
  induction segments with
  | nil => exact (Nat.zero_max _).symm
  | cons segment segments ih =>
    cases segment with
    | field name => exact ih
    | index key => rw [List.cons_append, depthOfSegments, depthOfSegments, ih, Nat.max_assoc]

/-- The depth of the deepest tree of an expression that some levels are free for. -/
def deepest : Nat → Nat
  | 0 => 0
  | 1 => 1
  | levels + 2 => deepest (levels + 1) + levels + 3

theorem deepest_succ {levels : Nat} (h : 0 < levels) : deepest (levels + 1) = deepest levels + levels + 2 := by
  cases levels with
  | zero => exact absurd h (Nat.lt_irrefl 0)
  | succ levels => rfl

theorem le_deepest_succ (levels : Nat) : deepest levels + levels + 1 ≤ deepest (levels + 1) := by
  cases levels with
  | zero => exact Nat.le_refl 1
  | succ levels => rw [deepest]; omega

theorem deepest_closed (levels : Nat) : 2 * deepest (levels + 1) + 2 = (levels + 1) * (levels + 4) := by
  induction levels with
  | zero => rfl
  | succ levels ih => rw [deepest]; grind

end Expr

namespace Cursor

open Formwork.Expr

/-- How many more levels can be opened. -/
def free (c : Cursor) : Nat := maxNesting - c.depth

/-- The same levels are open at two cursors, and what lies between them is not deeper than a bound. -/
def Within (c next : Cursor) (depth bound : Nat) : Prop := next.depth = c.depth ∧ depth ≤ bound

theorem free_congr {c c' : Cursor} (h : c'.depth = c.depth) : c'.free = c.free := by rw [free, h]; rfl

theorem free_deeper {c : Cursor} (h : c.depth < maxNesting) : c.deeper.free + 1 = c.free := by
  simp only [free, deeper]; omega

mutual

theorem within_expression (c : Cursor) {next : Cursor} {tree : Expr}
    (h : read (expression c) = .ok (tree, next)) :
    c.depth < maxNesting ∧ c.Within next tree.depth (deepest c.free) := by
  rw [read_expression] at h
  split at h
  · rename_i hdepth
    obtain ⟨⟨tree, c₁⟩, hread, h⟩ := bind_eq_ok.1 h
    obtain ⟨hlevels, hbound⟩ := within_conditional c.deeper hread
    cases h
    rw [free_deeper hdepth] at hbound
    exact ⟨hdepth, by simp only [leave, hlevels, deeper]; omega, hbound⟩
  · cases h
termination_by (c.size, 6)

theorem within_conditional (c : Cursor) {next : Cursor} {tree : Expr}
    (h : read (conditional c) = .ok (tree, next)) : c.Within next tree.depth (deepest (c.free + 1)) := by
  rw [read_conditional] at h
  obtain ⟨⟨test, c₁⟩, htest, h⟩ := bind_eq_ok.1 h
  have hsize := size_lt_of_read htest
  obtain ⟨hlevels, hbound⟩ := within_logical 0 c htest
  simp only at h
  split at h
  · rename_i hquestion
    have hadvance := c₁.size_advance_lt hquestion
    obtain ⟨⟨yes, c₂⟩, hyes, h⟩ := bind_eq_ok.1 h
    have hsize₂ := size_lt_of_read hyes
    obtain ⟨hopen, hlevels₂, hbound₂⟩ := within_expression c₁.advance hyes
    simp only at h
    split at h
    · rename_i hcolon
      have hadvance₂ := c₂.size_advance_lt hcolon
      obtain ⟨⟨no, c₃⟩, hno, h⟩ := bind_eq_ok.1 h
      obtain ⟨-, hlevels₃, hbound₃⟩ := within_expression c₂.advance hno
      cases h
      have hfree₁ : c₁.advance.free = c.free := free_congr hlevels
      have hfree₂ : c₂.advance.free = c.free := free_congr (hlevels₂.trans hlevels)
      have hfree : 0 < c.free := hfree₁ ▸ Nat.sub_pos_of_lt hopen
      rw [hfree₁] at hbound₂
      rw [hfree₂] at hbound₃
      refine ⟨hlevels₃.trans (hlevels₂.trans hlevels), ?_⟩
      rw [deepest_succ hfree]
      show max test.depth (max yes.depth no.depth) + 1 ≤ _
      omega
    · cases h
  · cases h
    have hdeepest := le_deepest_succ c.free
    exact ⟨hlevels, by omega⟩
termination_by (c.size, 5)

theorem within_logical (level : Nat) (c : Cursor) {next : Cursor} {tree : Expr}
    (h : read (logical level c) = .ok (tree, next)) :
    c.Within next tree.depth (deepest c.free + 1 + c.free) := by
  rw [read_logical] at h
  obtain ⟨⟨left, c₁⟩, hleft, h⟩ := bind_eq_ok.1 h
  have hsize := size_lt_of_read hleft
  obtain ⟨hlevels, hbound⟩ := within_unary c hleft
  have hfree := free_congr hlevels
  rw [← hfree] at hbound
  have hchain := within_chain level left 0 c₁ hbound (Nat.le_refl _) h
  rwa [hfree, hlevels] at hchain
termination_by (c.size, 4)

theorem within_chain (level : Nat) (left : Expr) (operators : Nat) (c : Cursor) {next : Cursor} {tree : Expr}
    {bound : Nat} (hleft : left.depth ≤ bound) (hbound : deepest c.free + 1 ≤ bound)
    (h : read (chain level left operators c) = .ok (tree, next)) :
    next.depth = c.depth - operators ∧ tree.depth ≤ bound + c.free := by
  rw [read_chain] at h
  split at h
  · rename_i tightness op hop
    obtain ⟨token, htoken, -⟩ := Option.bind_eq_some_iff.1 hop
    have hadvance := c.size_advance_lt htoken
    split at h
    · split at h
      · rename_i hdepth
        obtain ⟨⟨right, c₁⟩, hright, h⟩ := bind_eq_ok.1 h
        have hsize : c₁.size < c.advance.size := size_lt_of_read hright
        obtain ⟨hlevels, hright⟩ := within_logical (tightness + 1) c.advance.deeper hright
        -- The left part grows by one, and one level less is left for growing.
        have hfree : c₁.free + 1 = c.free := (free_congr hlevels).symm ▸ free_deeper hdepth
        have hdeepest := le_deepest_succ c₁.free
        rw [← free_congr hlevels] at hright
        rw [← hfree] at hbound
        have hjoined : (op.join left right).depth ≤ bound + 1 := by rw [depth_join]; omega
        obtain ⟨hlast, htree⟩ := within_chain level _ (operators + 1) c₁ hjoined (by omega) h
        exact ⟨by rw [hlast, hlevels]; simp only [deeper, advance]; omega, by omega⟩
      · cases h
    · cases h
      exact ⟨rfl, Nat.le_add_right_of_le hleft⟩
  · cases h
    exact ⟨rfl, Nat.le_add_right_of_le hleft⟩
termination_by (c.size, 7)

theorem within_unary (c : Cursor) {next : Cursor} {tree : Expr} (h : read (unary c) = .ok (tree, next)) :
    c.Within next tree.depth (deepest c.free + 1) := by
  rw [read_unary] at h
  split at h
  · rename_i op hop
    split at h
    · rename_i hdepth
      cases htoken : c.peek? with
      | none => rw [htoken] at hop; cases hop
      | some token =>
        have hadvance := c.size_advance_lt htoken
        obtain ⟨⟨tree, c₁⟩, hread, h⟩ := bind_eq_ok.1 h
        obtain ⟨hlevels, hbound⟩ := within_unary c.advance.deeper hread
        cases h
        have hdeepest := le_deepest_succ c.deeper.free
        rw [free_deeper hdepth] at hdeepest
        have hbound : tree.depth ≤ deepest c.deeper.free + 1 := hbound
        exact ⟨by simp only [leave, hlevels, deeper, advance]; omega, by rw [Expr.depth]; omega⟩
    · cases h
  · exact within_operand c h
termination_by (c.size, 3)

theorem within_operand (c : Cursor) {next : Cursor} {tree : Expr}
    (h : read (operand c) = .ok (tree, next)) : c.Within next tree.depth (deepest c.free + 1) := by
  rw [read_operand] at h
  obtain ⟨⟨first, c₁⟩, hfirst, h⟩ := bind_eq_ok.1 h
  have hsize := size_lt_of_read hfirst
  obtain ⟨hlevels, hbound⟩ := within_primary c hfirst
  have hfree := free_congr hlevels
  rw [← hfree] at hbound
  obtain ⟨hlevels₁, hbound₁⟩ := within_segments first c₁ hbound h
  exact ⟨hlevels₁.trans hlevels, hfree ▸ hbound₁⟩
termination_by (c.size, 2)

theorem within_segments (first : Expr) (c : Cursor) {next : Cursor} {tree : Expr}
    (hfirst : first.depth ≤ deepest c.free + 1) (h : read (segments first c) = .ok (tree, next)) :
    c.Within next tree.depth (deepest c.free + 1) := by
  rw [read_segments] at h
  split at h
  · rename_i hdot
    have hadvance := c.size_advance_lt hdot
    split at h
    · rename_i name hname
      have hadvance₂ := c.advance.size_advance_le
      obtain ⟨longer, hlonger, h⟩ := bind_eq_ok.1 h
      obtain ⟨root, segments, rfl, rfl⟩ := Expr.extend_eq_ok hlonger
      refine within_segments _ c.advance.advance ?_ h
      rw [Expr.depth, depthOfSegments_append]
      exact Nat.succ_le_succ (Nat.max_le.2 ⟨Nat.le_of_succ_le_succ hfirst, Nat.zero_le _⟩)
    · cases h
  · rename_i hbracket
    have hadvance := c.size_advance_lt hbracket
    obtain ⟨⟨key, c₁⟩, hkey, h⟩ := bind_eq_ok.1 h
    have hsize := size_lt_of_read hkey
    obtain ⟨-, hlevels, hbound⟩ := within_expression c.advance hkey
    simp only at h
    split at h
    · rename_i hclose
      have hadvance₁ := c₁.size_advance_le
      obtain ⟨longer, hlonger, h⟩ := bind_eq_ok.1 h
      obtain ⟨root, segments, rfl, rfl⟩ := Expr.extend_eq_ok hlonger
      have hfree : c₁.advance.free = c.free := free_congr hlevels
      have hlonger : (Expr.path root (segments ++ [.index key])).depth ≤ deepest c₁.advance.free + 1 := by
        rw [hfree, Expr.depth, depthOfSegments_append]
        have hkey : depthOfSegments [.index key] ≤ deepest c.free := Nat.max_le.2 ⟨hbound, Nat.zero_le _⟩
        exact Nat.succ_le_succ (Nat.max_le.2 ⟨Nat.le_of_succ_le_succ hfirst, hkey⟩)
      obtain ⟨hlevels₁, hbound₁⟩ := within_segments _ c₁.advance hlonger h
      exact ⟨hlevels₁.trans hlevels, hfree ▸ hbound₁⟩
    · cases h
  · cases h
  · cases h
    exact ⟨rfl, hfirst⟩
termination_by (c.size, 1)

theorem within_primary (c : Cursor) {next : Cursor} {tree : Expr}
    (h : read (primary c) = .ok (tree, next)) : c.Within next tree.depth (deepest c.free + 1) := by
  rw [read_primary] at h
  split at h
  · cases h
    exact ⟨rfl, Nat.zero_le _⟩
  · cases h
    exact ⟨rfl, Nat.zero_le _⟩
  · rename_i hparen
    have hadvance := c.size_advance_lt hparen
    obtain ⟨⟨inner, c₁⟩, hinner, h⟩ := bind_eq_ok.1 h
    obtain ⟨-, hlevels, hbound⟩ := within_expression c.advance hinner
    simp only at h
    split at h
    · cases h
      exact ⟨hlevels, Nat.le_succ_of_le hbound⟩
    · cases h
  · rename_i hbracket
    have hadvance := c.size_advance_lt hbracket
    obtain ⟨⟨trees, c₁⟩, htrees, h⟩ := bind_eq_ok.1 h
    obtain ⟨hlevels, hbound⟩ := within_arguments .rightBracket c.advance htrees
    simp only at h
    split at h
    · cases h
      exact ⟨hlevels, Nat.succ_le_succ hbound⟩
    · cases h
  · rename_i word hword
    have hadvance := c.size_advance_lt hword
    split at h
    · cases h
      exact ⟨rfl, Nat.zero_le _⟩
    split at h
    · cases h
    split at h
    · cases h
      exact ⟨rfl, Nat.succ_le_succ (Nat.zero_le _)⟩
    split at h
    · split at h
      · cases h
      · have hadvance₂ := c.advance.size_advance_le
        obtain ⟨⟨trees, c₁⟩, htrees, h⟩ := bind_eq_ok.1 h
        obtain ⟨hlevels, hbound⟩ := within_arguments .rightParen c.advance.advance htrees
        simp only at h
        split at h
        · cases h
          exact ⟨hlevels, Nat.succ_le_succ hbound⟩
        · cases h
    · cases h
  · cases h
termination_by (c.size, 0)

theorem within_arguments (close : Token) (c : Cursor) {next : Cursor} {trees : List Expr}
    (h : read (arguments close c) = .ok (trees, next)) :
    c.Within next (depthOfItems trees) (deepest c.free) := by
  rw [read_arguments] at h
  split at h
  · cases h
    exact ⟨rfl, Nat.zero_le _⟩
  · exact within_moreArguments close c h
termination_by (c.size, 8)

theorem within_moreArguments (close : Token) (c : Cursor) {next : Cursor} {trees : List Expr}
    (h : read (moreArguments close c) = .ok (trees, next)) :
    c.Within next (depthOfItems trees) (deepest c.free) := by
  rw [read_moreArguments] at h
  obtain ⟨⟨item, c₁⟩, hitem, h⟩ := bind_eq_ok.1 h
  have hsize := size_lt_of_read hitem
  obtain ⟨-, hlevels, hbound⟩ := within_expression c hitem
  simp only at h
  split at h
  · cases h
    exact ⟨hlevels, Nat.max_le.2 ⟨hbound, Nat.zero_le _⟩⟩
  split at h
  · rename_i hcomma
    have hadvance := c₁.size_advance_lt hcomma
    obtain ⟨⟨items, c₂⟩, hitems, h⟩ := bind_eq_ok.1 h
    obtain ⟨hlevels₁, hbound₁⟩ := within_moreArguments close c₁.advance hitems
    cases h
    have hfree : c₁.advance.free = c.free := free_congr hlevels
    rw [hfree] at hbound₁
    exact ⟨hlevels₁.trans hlevels, Nat.max_le.2 ⟨hbound, hbound₁⟩⟩
  · cases h
termination_by (c.size, 7)

end

end Cursor

end Formwork
