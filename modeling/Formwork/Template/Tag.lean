import Formwork.Json.Decoder
import Formwork.Template.Basic

/-!
# Reading tags

A tag stands between braces: a value, the call of a helper, the start, middle or end of a block, a
comment. Blanks may stand between its parts, and a tilde at either end of it takes away the blanks
of the text there. What is read is the longest name, path or literal that starts where reading
stands; where two readings are possible the first one counts, whatever follows.
-/

namespace Formwork.Template

/-- Characters of names. -/
def isSymbol (c : Char) : Bool := c.isAlphanum || c = '_' || c = '-' || c = '$' || 128 ≤ c.toNat

/-- The blanks that may stand between the parts of a tag. -/
def isSpace (c : Char) : Bool := c = ' ' || c = '\t' || c = '\n' || c = '\r'

/-- What separates the names of a path. -/
def isSeparator (c : Char) : Bool := c = '.' || c = '/'

def skip (text : List Char) : List Char := text.dropWhile isSpace

/-- What follows a mark, if the text starts with it. -/
def past? (mark text : List Char) : Option (List Char) :=
  if mark.isPrefixOf text then some (text.drop mark.length) else none

/-- What follows the first occurrence of a mark. -/
def dropPast? (mark : List Char) : List Char → Option (List Char)
  | [] => past? mark []
  | c :: rest =>
    match past? mark (c :: rest) with
    | some found => some found
    | none => dropPast? mark rest

/-- What stands before the rest of a text. -/
def spanBefore (text rest : List Char) : String :=
  String.ofList (text.take (text.length - rest.length))

/-- A name. -/
def readName (text : List Char) : Option (String × List Char) :=
  let name := text.takeWhile isSymbol
  if name.isEmpty then none else some (String.ofList name, text.drop name.length)

/-! ### Paths -/

/-- A name of a path; in brackets it may hold anything. -/
def readStep : List Char → Option (String × List Char)
  | '[' :: rest =>
    let name := rest.takeWhile (· != ']')
    match rest.drop name.length with
    | _ :: rest => some (String.ofList name, rest)
    | [] => none
  | text => readName text

/-- The further names of a path. -/
def readSteps : Nat → List Char → List String × List Char
  | fuel + 1, c :: rest =>
    match if isSeparator c then readStep rest else none with
    | some (name, rest) =>
      let (names, rest) := readSteps fuel rest
      (name :: names, rest)
    | none => ([], c :: rest)
  | _, text => ([], text)

/-- A text without the words for the current value that start a path. -/
def dropCurrent : List Char → List Char
  | '.' :: '/' :: rest => dropCurrent rest
  | 't' :: 'h' :: 'i' :: 's' :: c :: rest =>
    if isSeparator c then rest else 't' :: 'h' :: 'i' :: 's' :: c :: rest
  | text => text

/-- The number of blocks that a path leads out of. -/
def dropLevels (levels : Nat) : List Char → Nat × List Char
  | '.' :: '.' :: c :: rest =>
    if isSeparator c then dropLevels (levels + 1) rest else (levels, '.' :: '.' :: c :: rest)
  | text => (levels, text)

/-- The start of a path at the root. -/
def dropRoot (text : List Char) : Bool × List Char :=
  match past? ['@', 'r', 'o', 'o', 't'] text with
  | some (c :: rest) => if isSeparator c then (true, rest) else (false, text)
  | _ => (false, text)

/-- What a path leads to, given the marks at its start. The name `this` leads nowhere else. -/
def targetOf (fromRoot isCounter : Bool) (levels : Nat) (names : List String) : Target :=
  let names := names.filter (· != "this")
  if fromRoot then .value .root names
  else
    match isCounter, names with
    | true, name :: _ => .counter levels name
    | true, [] => .value (.around 0) []
    | false, names => .value (.around levels) names

/-- A path. -/
def readPath (text : List Char) : Option (Path × List Char) := do
  let (fromRoot, rest) := dropRoot (dropCurrent text)
  let (isCounter, rest) :=
    match rest with
    | '@' :: rest => (true, rest)
    | rest => (false, rest)
  let (levels, rest) := dropLevels 0 rest
  let (name, rest) ← readStep rest
  let (names, rest) := readSteps rest.length rest
  return (⟨targetOf fromRoot isCounter levels (name :: names), spanBefore text rest⟩, rest)

/-! ### Literals -/

/-- What follows a quoted text, after its opening quote. -/
def dropQuoted? (quote : Char) : List Char → Option (List Char)
  | [] => none
  | '\\' :: _ :: rest => dropQuoted? quote rest
  | c :: rest => if c = quote then some rest else dropQuoted? quote rest

/-- What follows a text in either kind of quotes. -/
def dropString? : List Char → Option (List Char)
  | [] => none
  | c :: rest => if c = '"' || c = '\'' then dropQuoted? c rest else none

/-- A text that does not go on with a character of names. -/
def endOfWord? (text : List Char) : Option (List Char) :=
  if (text.head?.map isSymbol).getD false then none else some text

/-- What follows the digits at the start of a text, if there are any. -/
def dropDigits? (text : List Char) : Option (List Char) :=
  match text.dropWhile Char.isDigit with
  | rest => if rest.length < text.length then some rest else none

/-- A text without a character at its start. -/
def dropOptional (c : Char) : List Char → List Char
  | d :: rest => if c = d then rest else d :: rest
  | [] => []

/-- What follows a number. -/
def dropNumber? (text : List Char) : Option (List Char) := do
  let rest ← dropDigits? (dropOptional '-' text)
  let rest := (dropOptional '.' rest).dropWhile Char.isDigit
  let scaled? :=
    match rest with
    | 'E' :: rest => dropDigits? (dropOptional '-' rest)
    | _ => none
  endOfWord? (scaled?.getD rest)

/-- What follows a word for a value. -/
def dropWord? (word : String) (text : List Char) : Option (List Char) :=
  (past? word.toList text).bind endOfWord?

/-- What follows a number or a word for a value. -/
def dropPlain? (text : List Char) : Option (List Char) :=
  (dropNumber? text).or <| (dropWord? "null" text).or <|
    (dropWord? "true" text).or (dropWord? "false" text)

mutual

/-- What follows a literal. The fuel is more than the length of the text. -/
def dropLiteral? : Nat → List Char → Option (List Char)
  | 0, _ => none
  | fuel + 1, text =>
    match text with
    | '[' :: rest => dropMembers? fuel ']' false rest
    | '{' :: rest => dropMembers? fuel '}' true rest
    | text => (dropString? text).or (dropPlain? text)

/-- What follows the members of an array or object and their end. -/
def dropMembers? : Nat → Char → Bool → List Char → Option (List Char)
  | 0, _, _, _ => none
  | fuel + 1, close, keyed, text =>
    match dropMember? fuel keyed (skip text) with
    | some rest => dropFurther? fuel close keyed rest
    | none => dropFurther? fuel close keyed text

/-- What follows a member. -/
def dropMember? : Nat → Bool → List Char → Option (List Char)
  | 0, _, _ => none
  | fuel + 1, true, text =>
    match (dropString? text).bind fun rest => past? [':'] (skip rest) with
    | some rest => dropLiteral? fuel (skip rest)
    | none => none
  | fuel + 1, false, text => dropLiteral? fuel text

/-- What follows the further members, each after a comma, and their end. -/
def dropFurther? : Nat → Char → Bool → List Char → Option (List Char)
  | 0, _, _, _ => none
  | fuel + 1, close, keyed, text =>
    match skip text with
    | [] => none
    | c :: rest =>
      if c = close then some rest
      else if c = ',' then
        match dropMember? fuel keyed (skip rest) with
        | some rest => dropFurther? fuel close keyed rest
        | none => none
      else none

end

/-- The content of a text in single quotes as one in double quotes. -/
def requote : List Char → List Char
  | '\\' :: '\'' :: rest => '\'' :: requote rest
  | '"' :: rest => '\\' :: '"' :: requote rest
  | c :: rest => c :: requote rest
  | [] => []

/-- The value that a literal writes, if it is one. -/
def literalValue? (source : String) : Option Json :=
  let written :=
    match source.toList with
    | '\'' :: inner => String.ofList ('"' :: requote inner.dropLast ++ ['"'])
    | _ => source
  (Json.parse written).toOption

/-! ### Arguments -/

/-- Whether a text starts with a word that no argument is. -/
def startsKeyword (text : List Char) : Bool :=
  ["as", "else"].any fun word =>
    (past? word.toList text).any fun rest => (endOfWord? (skip rest)).isSome

/-- The arguments by place, and those by name. -/
structure Arguments where
  placed : List Param
  named : Fields Param

/-- Arguments with one more in front. What is given twice under a name is what was given last. -/
def Arguments.cons (name? : Option String) (param : Param) (arguments : Arguments) : Arguments :=
  match name? with
  | none => { arguments with placed := param :: arguments.placed }
  | some name =>
    if Fields.has arguments.named name then arguments
    else { arguments with named := (name, param) :: arguments.named }

/-- The name of an argument by name. -/
def readKey (text : List Char) : Option (String × List Char) := do
  let (name, rest) ← readName text
  let rest ← past? ['='] (skip rest)
  return (name, skip rest)

mutual

/-- An argument: a literal, a path or a call. -/
def readParam : Nat → List Char → Option (Param × List Char)
  | 0, _ => none
  | fuel + 1, text =>
    if startsKeyword text then none
    else
      match dropLiteral? fuel text with
      | some rest => (literalValue? (spanBefore text rest)).map (.literal ·, rest)
      | none =>
        match readPath text, text with
        | some (path, rest), _ => some (.path path, rest)
        | none, '(' :: rest => readInner fuel (skip rest)
        | none, _ => none

/-- A call inside another one, after its parenthesis. -/
def readInner : Nat → List Char → Option (Param × List Char)
  | 0, _ => none
  | fuel + 1, text => do
    let called? : Option (Param × List Char) :=
      match readName text with
      | none => none
      | some (name, rest) =>
        match readArguments fuel rest with
        | (⟨[], []⟩, _) => none
        | (⟨placed, named⟩, rest) => some (.call name placed named, rest)
    let (call, rest) ←
      called?.or ((readPath text).map fun (path, rest) => (.call path.written [] [], rest))
    let rest ← past? [')'] (skip rest)
    return (call, rest)

/-- The arguments that a text starts with. -/
def readArguments : Nat → List Char → Arguments × List Char
  | 0, text => (⟨[], []⟩, text)
  | fuel + 1, text =>
    let named? : Option (Option String × Param × List Char) :=
      match readKey (skip text) with
      | none => none
      | some (name, rest) =>
        match readParam fuel rest with
        | some (param, rest) => some (some name, param, rest)
        | none => none
    let found? :=
      match named? with
      | some found => some found
      | none =>
        match readParam fuel (skip text) with
        | some (param, rest) => some (none, param, rest)
        | none => none
    match found? with
    | none => (⟨[], []⟩, text)
    | some (name?, param, rest) =>
      let (arguments, rest) := readArguments fuel rest
      (arguments.cons name? param, rest)

end

/-- The one or two names that a block gives to the value and key of each round. -/
def readBinders (text : List Char) : Option (List String × List Char) := do
  let rest ← past? ['a', 's'] (skip text)
  let rest ← past? ['|'] (skip rest)
  let (name, rest) ← readName (skip rest)
  let (names, rest) :=
    match readName (skip rest) with
    | some (second, rest) => ([name, second], rest)
    | none => ([name], rest)
  let rest ← past? ['|'] (skip rest)
  return (names, rest)

/-- The call of a helper by name. -/
def readCall (fuel : Nat) (text : List Char) : Option (Call × List Char) := do
  let (name, rest) ← readName (skip text)
  let (arguments, rest) := readArguments fuel rest
  let (binders, rest) := (readBinders rest).getD ([], rest)
  return (⟨name, arguments.placed, arguments.named, binders⟩, rest)

/-! ### Tags -/

/-- The kinds of blocks. -/
inductive Kind where
  | helper
  | decorator
  | insert
deriving Repr, DecidableEq

/-- What a tag says. -/
inductive Tag where
  | value (param : Param)
  | call (call : Call)
  | insert (call : Call)
  | decorator
  | comment
  | opening (kind : Kind) (call : Call)
  /-- What follows stands in for the content before it, under a further call if there is one. -/
  | otherwise (further : Option Call)
  | closing (name : String)

/-- A tag, and whether it takes away the blanks before and after it. -/
structure Mark where
  tag : Tag
  trimsBefore : Bool
  trimsAfter : Bool

/-- A tilde, if there is one, after blanks. -/
def readTilde (text : List Char) : Bool × List Char :=
  match skip text with
  | '~' :: rest => (true, rest)
  | rest => (false, rest)

/-- The end of a tag. -/
def readEnd (close : List Char) (tag : Tag) (before : Bool) (text : List Char) :
    Option (Mark × List Char) := do
  let (after, rest) := readTilde text
  let rest ← past? close (skip rest)
  return (⟨tag, before, after⟩, rest)

/-- A path or a call in parentheses as a value. -/
def readShown (fuel : Nat) (text : List Char) : Option (Tag × List Char) :=
  match skip text with
  | '(' :: rest => (readInner fuel (skip rest)).map fun (param, rest) => (.value param, rest)
  | text => (readPath text).map fun (path, rest) => (.value (.path path), rest)

/-- The content of a tag that shows something: the call of a helper with arguments, or a value. -/
def readExpression (fuel : Nat) (text : List Char) : Option (Tag × List Char) :=
  let called? := do
    let (name, rest) ← readName (skip text)
    match readArguments fuel rest with
    | (⟨[], []⟩, _) => none
    | (⟨placed, named⟩, rest) => return (Tag.call ⟨name, placed, named, []⟩, rest)
  called?.or (readShown fuel text)

/-- The call of a partial template. Its name may hold separators. -/
def readInsert (fuel : Nat) (text : List Char) : Option (Call × List Char) := do
  let text := skip text
  let plain := text.takeWhile fun c => c != '$' && (isSymbol c || isSeparator c)
  let (name, rest) ←
    if !plain.isEmpty then some (String.ofList plain, text.drop plain.length)
    else
      match text with
      | '(' :: rest => (readInner fuel (skip rest)).map fun (_, rest) => ("", rest)
      | text => (readPath text).map fun (path, rest) => (path.written, rest)
  let (arguments, rest) := readArguments fuel rest
  return (⟨name, arguments.placed, arguments.named, []⟩, rest)

/-- The content of the tag that starts a block, after its mark. -/
def readOpening (fuel : Nat) (text : List Char) : Option (Tag × List Char) :=
  match skip text with
  | '*' :: rest => (readCall fuel rest).map fun (call, rest) => (.opening .decorator call, rest)
  | '>' :: rest => (readInsert fuel rest).map fun (call, rest) => (.opening .insert call, rest)
  | rest => (readCall fuel rest).map fun (call, rest) => (.opening .helper call, rest)

/-- The name in the tag that ends a block, after its mark. -/
def readClosing (text : List Char) : Option (Tag × List Char) :=
  let text := skip text
  let name := text.takeWhile fun c => isSymbol c || isSeparator c
  if name.isEmpty then none
  else some (.closing (String.ofList name), text.drop name.length)

/-- The tag in the middle of a block. -/
def readOtherwise (fuel : Nat) (before : Bool) (text : List Char) :
    Option (Mark × List Char) := do
  let rest ← (past? ['e', 'l', 's', 'e'] text).or (past? ['^'] text)
  let further? := do
    let (call, rest) ← readCall fuel rest
    readEnd ['}', '}'] (.otherwise (some call)) before rest
  further?.or (readEnd ['}', '}'] (.otherwise none) before rest)

/-- A comment, after its mark. One that starts with two hyphens ends with two more. -/
def readComment (text : List Char) : Option (Mark × List Char) :=
  let long? := do
    let rest ← past? ['-', '-'] (skip text)
    dropPast? ['-', '-', '}', '}'] rest
  (long?.or (dropPast? ['}', '}'] text)).map (⟨.comment, false, false⟩, ·)

/-- A value between three braces, after the first two of them. -/
def readTriple (fuel : Nat) (text : List Char) : Option (Mark × List Char) :=
  let joined? := do
    let rest ← past? ['{'] text
    let (before, rest) := readTilde rest
    let (tag, rest) ← readExpression fuel rest
    readEnd ['}', '}', '}'] tag before rest
  let spaced? := do
    let (before, rest) := readTilde text
    let rest ← past? ['{'] (skip rest)
    let (tag, rest) ← readExpression fuel rest
    let rest ← past? ['}'] (skip rest)
    readEnd ['}', '}'] tag before rest
  joined?.or spaced?

/-- The content of a tag, after its braces and what marks it. -/
def readContent (fuel : Nat) (text : List Char) : Option (Tag × List Char) :=
  match text with
  | '#' :: rest => readOpening fuel rest
  | '/' :: rest => readClosing rest
  | '*' :: rest => (readCall fuel rest).map fun (_, rest) => (.decorator, rest)
  | '>' :: rest => (readInsert fuel rest).map fun (call, rest) => (.insert call, rest)
  | '&' :: rest => readShown fuel rest
  | text => readExpression fuel text

/-- A tag, after its first two braces. -/
def readTag (fuel : Nat) (text : List Char) : Option (Mark × List Char) :=
  match text with
  | '!' :: rest => readComment rest
  | text =>
    let (before, rest) := readTilde text
    match skip rest with
    | '{' :: _ => readTriple fuel text
    | rest =>
      (readOtherwise fuel before rest).or do
        let (tag, rest) ← readContent fuel rest
        readEnd ['}', '}'] tag before rest

/-- The tag that starts a block of raw text, after its first four braces. -/
def readRawOpening (fuel : Nat) (text : List Char) : Option (Mark × List Char) := do
  let (before, rest) := readTilde text
  let (call, rest) ← readCall fuel rest
  readEnd ['}', '}', '}', '}'] (.opening .helper call) before rest

/-- The tag that ends a block of raw text, after its first four braces. -/
def readRawClosing (text : List Char) : Option (Mark × List Char) := do
  let (before, rest) := readTilde text
  let rest ← past? ['/'] (skip rest)
  let (tag, rest) ← readClosing rest
  readEnd ['}', '}', '}', '}'] tag before rest

end Formwork.Template
