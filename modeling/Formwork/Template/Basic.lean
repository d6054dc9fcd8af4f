import Formwork.Json.Basic

/-!
# Message templates

A message is made from the parts of a template: its texts as they stand, and for its tags the values
of paths, the results of helpers, blocks and partial templates.
-/

namespace Formwork.Template

/-- Where a path to a value starts. -/
inductive Start where
  /-- The data that the message is made from. -/
  | root
  /-- The value around the given number of blocks. -/
  | around (levels : Nat)
deriving Repr, DecidableEq

/-- What a path leads to. -/
inductive Target where
  | value (start : Start) (names : List String)
  /-- A variable of the block around the given number of blocks. -/
  | counter (levels : Nat) (name : String)
deriving Repr, DecidableEq

/-- A path with its text, which can be the name of a helper or partial template as well. -/
structure Path where
  target : Target
  written : String
deriving Repr, DecidableEq

/-- An argument of a call. -/
inductive Param where
  | literal (value : Json)
  | path (path : Path)
  | call (name : String) (arguments : List Param) (named : List (String × Param))

/-- A call with its arguments, and the names that it gives to the value and key of each round. -/
structure Call where
  name : String
  arguments : List Param
  named : Fields Param
  binders : List String

/-- A part of a template. -/
inductive Piece where
  | text (text : String)
  /-- A value, or the result of a helper of that name. -/
  | value (param : Param)
  /-- The call of a helper, with its content and what stands in for it otherwise. -/
  | block (call : Call) (body otherwise : List Piece)
  /-- A partial template. -/
  | insert (call : Call)
  /-- A partial template to which a body is given; the body stands in for it if there is none. -/
  | wrap (call : Call) (body : List Piece)
  /-- A partial template under the name that the first argument gives. -/
  | define (call : Call) (body : List Piece)
  /-- What cannot be rendered. -/
  | invalid

end Formwork.Template
