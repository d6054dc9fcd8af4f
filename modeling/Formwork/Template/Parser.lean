import Formwork.Template.Layout

/-!
# Parsing message templates

A template is read as texts and tags (`readSource`), which are laid out and then put together
(`assemble`) as the parts of a message. A text can hold braces after a backslash.
-/

namespace Formwork.Template

/-- What ends a text: the braces of a tag, or those that end raw text. -/
def isMark (raw : Bool) (text : List Char) : Bool :=
  (if raw then ['{', '{', '{', '{'] else ['{', '{']).isPrefixOf text

/-- The text up to a tag, in front of which stands what was read before, last first. A backslash
before braces keeps them as text. Of more than one backslash before braces one goes, and the braces
are those of a tag. -/
def readText (raw : Bool) : Bool → List Char → List Char → List Char × List Char
  | _, found, [] => (found.reverse, [])
  | escaped, found, '\\' :: '{' :: '{' :: rest =>
    if escaped then
      if isMark raw ('{' :: '{' :: rest) then (found.reverse, '{' :: '{' :: rest)
      else readText raw false ('{' :: '{' :: found) rest
    else
      match rest with
      | '{' :: '{' :: rest => readText raw false ('{' :: '{' :: '{' :: '{' :: found) rest
      | rest => readText raw false ('{' :: '{' :: found) rest
  | _, found, c :: rest =>
    if isMark raw (c :: rest) then (found.reverse, c :: rest)
    else readText raw (c = '\\') (c :: found) rest

/-- The tags of a text that starts with one, with the texts behind them. The fuel is more than the
length of the text. -/
def readParts : Nat → List Char → Option (List Part)
  | 0, _ => none
  | _ + 1, [] => some []
  | fuel + 1, text =>
    match past? ['{', '{', '{', '{'] text with
    | some rest => do
      let (opening, rest) ← readRawOpening (2 * fuel) rest
      let (body, rest) := readText true false [] rest
      let (closing, rest) ← readRawClosing (rest.drop 4)
      let (behind, rest) := readText false false [] rest
      let parts ← readParts fuel rest
      return ⟨opening, body⟩ :: ⟨closing, behind⟩ :: parts
    | none => do
      let (mark, rest) ← readTag (2 * fuel) (text.drop 2)
      let (behind, rest) := readText false false [] rest
      let parts ← readParts fuel rest
      return ⟨mark, behind⟩ :: parts

/-- The first text of a template, and its tags with the texts behind them. -/
def readSource (template : String) : Option (List Char × List Part) := do
  let text := template.toList
  let (first, rest) := readText false false [] text
  let parts ← readParts (text.length + 1) rest
  return (first, parts)

/-- A block that has been opened: the parts before it, the calls with their content that it has had,
and the content under the last call once there is a content otherwise. All are last first. -/
structure Open where
  kind : Kind
  name : String
  call : Call
  before : List Piece
  earlier : List (Call × List Piece)
  body? : Option (List Piece)

/-- The opened block with the content under its call, and what stands behind it otherwise. -/
def Open.turn (block : Open) (pieces : List Piece) : Option Call → Open
  | none => { block with body? := some pieces.reverse }
  | some call =>
    { block with call := call, earlier := (block.call, pieces.reverse) :: block.earlier }

/-- The block with its last content. -/
def Open.close (block : Open) (pieces : List Piece) : Piece :=
  let last := pieces.reverse
  match block.kind with
  | .helper =>
    let (body, otherwise) :=
      match block.body? with
      | some body => (body, last)
      | none => (last, [])
    block.earlier.foldl (fun inner (call, body) => .block call body [inner])
      (.block block.call body otherwise)
  | .insert => .wrap block.call last
  | .decorator => if block.name = "inline" then .define block.call last else .invalid

/-- Parts with a text behind them, last first. -/
def addText (text : List Char) (pieces : List Piece) : List Piece :=
  if text.isEmpty then pieces else .text (String.ofList text) :: pieces

/-- The parts of a template from its tags and texts, given the opened blocks and the parts before
in the innermost of them, both last first. -/
def assemble : List Open → List Piece → List Part → Option (List Piece)
  | [], pieces, [] => some pieces.reverse
  | _ :: _, _, [] => none
  | blocks, pieces, ⟨⟨tag, _, _⟩, text⟩ :: rest =>
    match tag, blocks with
    | .value param, _ => assemble blocks (addText text (.value param :: pieces)) rest
    | .call call, _ => assemble blocks (addText text (.block call [] [] :: pieces)) rest
    | .insert call, _ => assemble blocks (addText text (.insert call :: pieces)) rest
    | .decorator, _ => assemble blocks (addText text (.invalid :: pieces)) rest
    | .comment, _ => assemble blocks (addText text pieces) rest
    | .opening kind call, _ =>
      assemble (⟨kind, call.name, call, pieces, [], none⟩ :: blocks) (addText text []) rest
    | .otherwise further, block :: blocks =>
      if block.kind = .helper && block.body?.isNone then
        assemble (block.turn pieces further :: blocks) (addText text []) rest
      else none
    | .closing name, block :: blocks =>
      if name = block.name then
        assemble blocks (addText text (block.close pieces :: block.before)) rest
      else none
    | _, [] => none

/-- The parts of a template. -/
def parse (template : String) : Option (List Piece) := do
  let (first, parts) ← readSource template
  let (first, parts) := layOut ⟨false, false⟩ true first parts
  assemble [] (addText first []) parts

end Formwork.Template
