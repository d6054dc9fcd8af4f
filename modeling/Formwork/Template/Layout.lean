import Formwork.Template.Tag
import Formwork.Text.Property

/-!
# Blanks around tags

A template is a text and then tags, each with the text behind it. A tag with a tilde takes away the
blanks on that side. A tag that says something about the template rather than showing a value takes
away the line it stands on, if it stands there alone: the blanks before it, and those behind it with
the line end.
-/

namespace Formwork.Template

/-- A tag and the text behind it. -/
structure Part where
  mark : Mark
  text : List Char

/-- Blanks within a line. -/
def isLineBlank (c : Char) : Bool := c = ' ' || c = '\t'

/-- A text without the characters of a kind at its end. -/
def dropEndWhile (p : Char → Bool) (text : List Char) : List Char :=
  (text.reverse.dropWhile p).reverse

/-- Whether a text ends its first line with nothing but blanks on it. -/
def startsBlankLine (text : List Char) : Bool :=
  match text.dropWhile isLineBlank with
  | c :: _ => c = '\n' || c = '\r'
  | [] => false

/-- Whether a text has nothing but blanks on its last line. The first text may have no line
before. -/
def endsBlankLine (isFirst : Bool) (text : List Char) : Bool :=
  match text.reverse.dropWhile isLineBlank with
  | c :: _ => c = '\n' || c = '\r'
  | [] => isFirst

/-- A text without its first line, which is blank. -/
def dropLine (text : List Char) : List Char :=
  match text.dropWhile isLineBlank with
  | '\r' :: '\n' :: rest => rest
  | '\n' :: rest => rest
  | rest => rest

/-- Whether a tag takes away the line on which it stands alone. -/
def Tag.ownsLine : Tag → Bool
  | .value _ | .call _ => false
  | _ => true

/-- Whether a tag keeps the blanks before it even where it stands alone. -/
def Tag.isInsert : Tag → Bool
  | .insert _ => true
  | _ => false

def Tag.isComment : Tag → Bool
  | .comment => true
  | _ => false

/-- What the tags so far do to the text that follows. -/
structure Trim where
  /-- All blanks at its start go. -/
  blanks : Bool
  /-- Its first line goes. -/
  line : Bool

/-- A text as its start is trimmed. -/
def Trim.start (trim : Trim) (text : List Char) : List Char :=
  if trim.blanks then text.dropWhile Text.isBlank
  else if trim.line then dropLine text
  else text

/-- What is left to do behind a text. The line is still to go if there was no more than blanks that
went anyway. -/
def Trim.behind (trim : Trim) (text : List Char) : Trim :=
  { trim with line := trim.line && (text.isEmpty || (trim.blanks && text.all isSpace)) }

/-- Whether a tag stands alone on its line, between two texts. -/
def isAlone (isFirst : Bool) (before : List Char) (part : Part) : Bool :=
  part.mark.tag.ownsLine && startsBlankLine part.text && endsBlankLine isFirst before

/-- What is to do behind a tag. Comments keep the tilde of the tag before. -/
def Trim.after (trim : Trim) (mark : Mark) (alone : Bool) : Trim where
  blanks := if mark.tag.isComment then trim.blanks else mark.trimsAfter
  line := if mark.tag.ownsLine then alone else trim.line

/-- A text as its end is trimmed by the tag behind it. -/
def Mark.trimEnd (mark : Mark) (alone : Bool) (text : List Char) : List Char :=
  let text := if mark.trimsBefore then dropEndWhile Text.isBlank text else text
  if alone && !mark.tag.isInsert then dropEndWhile isLineBlank text else text

/-- A text and the tags behind it with their texts as they are shown. -/
def layOut (trim : Trim) (isFirst : Bool) (text : List Char) :
    List Part → List Char × List Part
  | [] => (trim.start text, [])
  | part :: rest =>
    let alone := isAlone isFirst text part
    let (behind, rest) := layOut ((trim.behind text).after part.mark alone) false part.text rest
    (part.mark.trimEnd alone (trim.start text), ⟨part.mark, behind⟩ :: rest)

end Formwork.Template
