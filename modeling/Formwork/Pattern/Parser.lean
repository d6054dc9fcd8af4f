import Formwork.Decimal.Literal
import Formwork.Json.Document
import Formwork.Pattern.Extent
import Formwork.Pattern.Property

/-!
# Parsing patterns

`Pattern.parse` reads the text of a pattern: literals, classes, groups, alternatives, repetitions,
assertions and flags. There are no look-arounds and no back-references. What is read comes with how
deep it is nested, since deeper nesting than `maxDepth` is refused, and so is a pattern whose
automaton is too large.
-/

namespace Formwork

/-- Why a text is no pattern. -/
inductive PatternError where
  | unclosedGroup
  | unopenedGroup
  | lookAround
  | backReference
  | badFlags
  | badGroupName
  | nothingToRepeat
  | badRepetition
  | badEscape
  | unknownProperty
  | unclosedClass
  | badRange
  | notText
  | tooDeep
  | tooLarge
deriving Repr, DecidableEq

def PatternError.message : PatternError → String
  | .unclosedGroup => "unclosed group"
  | .unopenedGroup => "unopened group"
  | .lookAround => "look-around is not supported"
  | .backReference => "back-references are not supported"
  | .badFlags => "invalid flags"
  | .badGroupName => "invalid group name"
  | .nothingToRepeat => "nothing to repeat"
  | .badRepetition => "invalid repetition count"
  | .badEscape => "invalid escape"
  | .unknownProperty => "unknown property"
  | .unclosedClass => "unclosed character class"
  | .badRange => "invalid range"
  | .notText => "the pattern can match parts of characters"
  | .tooDeep => "the pattern is nested too deeply"
  | .tooLarge => "the pattern is too large"

namespace Pattern

/-- How deep the parts of a pattern may be nested. -/
def maxDepth : Nat := 250

/-- The flags that are in force. Without `unicode`, sets are sets of bytes, and only those of ASCII
are characters. -/
structure Flags where
  ignoreCase : Bool := false
  multiLine : Bool := false
  dotAll : Bool := false
  swapGreed : Bool := false
  verbose : Bool := false
  unicode : Bool := true
  crlf : Bool := false
deriving Repr, DecidableEq

namespace Flags

/-- Which characters words consist of. -/
def words (flags : Flags) : WordKind := if flags.unicode then .unicode else .ascii

/-- The set with all cases of its characters, where the case does not matter. -/
def close (flags : Flags) (set : CharSet) : CharSet :=
  if !flags.ignoreCase then set
  else if flags.unicode then set.foldCase
  else set.foldAscii

/-- A set or its complement, closed under case. A set of bytes must be one of characters. -/
def closed (flags : Flags) (negated : Bool) (set : CharSet) : Except PatternError CharSet :=
  let set := flags.close set
  if flags.unicode then .ok (if negated then set.complement else set)
  else
    let bytes := if negated then Text.Ranges.inter set.complement [(0, 255)] else set
    if bytes.all fun (_, last) => last < 128 then .ok bytes else .error .notText

/-- Sets one flag. -/
def set? (flags : Flags) (name : Char) (value : Bool) : Option Flags :=
  match name with
  | 'i' => some { flags with ignoreCase := value }
  | 'm' => some { flags with multiLine := value }
  | 's' => some { flags with dotAll := value }
  | 'U' => some { flags with swapGreed := value }
  | 'u' => some { flags with unicode := value }
  | 'R' => some { flags with crlf := value }
  | 'x' => some { flags with verbose := value }
  | _ => none

end Flags

/-- What is read, and the text behind it. -/
abbrev Result (α : Type) := Except PatternError (α × List Char)

/-- Passes over blanks and comments where they do not matter. -/
def skipSpace (verbose : Bool) : List Char → List Char
  | [] => []
  | c :: rest =>
    if !verbose then c :: rest
    else if Text.isBlank c then skipSpace verbose rest
    else if c = '#' then skipComment verbose rest
    else c :: rest
where
  /-- Passes over the rest of a comment. -/
  skipComment (verbose : Bool) : List Char → List Char
    | [] => []
    | c :: rest => if c = '\n' then skipSpace verbose rest else skipComment verbose rest

/-- The character that follows one, looked for past blanks and the mark of a comment where they do
not matter. The text of a comment is not passed over. -/
def peekSpace (verbose : Bool) (rest : List Char) : Option Char :=
  if !verbose then rest.head?
  else
    match rest.dropWhile Text.isBlank with
    | '#' :: comment => (comment.dropWhile Text.isBlank).head? <|> rest.head?
    | [] => rest.head?
    | c :: _ => some c

/-! ### Escapes -/

/-- A character in a pattern, and whether it is written as a byte with two hexadecimal digits. -/
structure Letter where
  char : Char
  isByte : Bool := false

/-- Whether a letter can stand in the text of a pattern: a byte is a character only in ASCII. -/
def Letter.isText (letter : Letter) (flags : Flags) : Bool :=
  flags.unicode || !letter.isByte || letter.char.toNat < 128

/-- Whether a letter can stand in a class. -/
def Letter.isMember (letter : Letter) (flags : Flags) : Bool :=
  flags.unicode || letter.isByte || letter.char.toNat < 128

/-- What a backslash introduces. -/
inductive Escape where
  | letter (letter : Letter)
  | charSet (set : CharSet)
  | assert (assertion : Assertion)

/-- The characters that have a meaning in patterns. -/
def isMeta (c : Char) : Bool := "\\.+*?()|[]\x7b\x7d^$#&-~".toList.contains c

/-- Characters that a backslash leaves as they are. -/
def isEscapable (c : Char) : Bool :=
  isMeta c || (c.toNat < 128 && !c.isAlphanum && c != '<' && c != '>')

/-- The character of a code point in hexadecimal digits. -/
def charOf? (digits : List Char) : Option Char :=
  let code := Text.readHex digits
  if code < 0xD800 || (0xDFFF < code && code ≤ 0x10FFFF) then some (Char.ofNat code) else none

/-- A number of hexadecimal digits. -/
def readHexDigits (verbose : Bool) : Nat → List Char → Result (List Char)
  | 0, text => .ok ([], text)
  | _ + 1, [] => .error .badEscape
  | count + 1, c :: rest =>
    if (Document.hexValue? c).isNone then .error .badEscape
    else
      match readHexDigits verbose count (skipSpace verbose rest) with
      | .ok (digits, rest) => .ok (c :: digits, rest)
      | .error error => .error error

/-- What stands up to a closing brace. The fuel is the length of the text. -/
def readBraced (verbose : Bool) : Nat → List Char → Result (List Char)
  | 0, _ => .error .badEscape
  | fuel + 1, text =>
    match skipSpace verbose text with
    | [] => .error .badEscape
    | '}' :: rest => .ok ([], rest)
    | c :: rest =>
      match readBraced verbose fuel rest with
      | .ok (inside, rest) => .ok (c :: inside, rest)
      | .error error => .error error

/-- A code point in hexadecimal: a number of digits, or any number of them in braces. -/
def readCode (verbose : Bool) (count : Nat) (text : List Char) : Result Letter :=
  match skipSpace verbose text with
  | '{' :: rest =>
    match readBraced verbose (rest.length + 1) rest with
    | .ok (digits, rest) =>
      if digits.isEmpty || digits.any fun c => (Document.hexValue? c).isNone then
        .error .badEscape
      else
        match charOf? digits with
        | some c => .ok ({ char := c }, skipSpace verbose rest)
        | none => .error .badEscape
    | .error error => .error error
  | text =>
    match readHexDigits verbose count text with
    | .ok (digits, rest) =>
      match charOf? digits with
      | some c => .ok ({ char := c, isByte := count = 2 }, rest)
      | none => .error .badEscape
    | .error error => .error error

/-- The text before the first occurrence of a mark, and the text behind it. -/
def splitOn? (mark : List Char) : List Char → Option (List Char × List Char)
  | [] => none
  | c :: rest =>
    if mark.isPrefixOf (c :: rest) then some ([], (c :: rest).drop mark.length)
    else (splitOn? mark rest).map fun (before, after) => (c :: before, after)

/-- A property: one letter, or a name, perhaps with a value, in braces. -/
def readProperty (flags : Flags) (negated : Bool) (text : List Char) : Result CharSet :=
  if !flags.unicode then .error .notText
  else
    let finish (negated : Bool) (set? : Option CharSet) (rest : List Char) : Result CharSet :=
      match set? with
      | some set => (flags.closed negated set).map ((·, rest))
      | none => .error .unknownProperty
    match skipSpace flags.verbose text with
    | [] => .error .badEscape
    | '\\' :: _ => .error .badEscape
    | '{' :: rest =>
      match readBraced flags.verbose (rest.length + 1) rest with
      | .error error => .error error
      | .ok (name, rest) =>
        match splitOn? ['!', '='] name, splitOn? [':'] name, splitOn? ['='] name with
        | some (property, value), _, _ =>
          finish (!negated) (CharSet.valued? property value) rest
        | _, some (property, value), _ => finish negated (CharSet.valued? property value) rest
        | _, _, some (property, value) => finish negated (CharSet.valued? property value) rest
        | _, _, _ => finish negated (CharSet.named? name) rest
    | c :: rest => finish negated (CharSet.named? [c]) rest

/-- The letters of a special word boundary. -/
def readBoundaryName (verbose : Bool) : Nat → List Char → List Char × List Char
  | 0, text => ([], text)
  | fuel + 1, text =>
    match text with
    | c :: rest =>
      if c.isAlpha || c = '-' then
        let (name, rest) := readBoundaryName verbose fuel (skipSpace verbose rest)
        (c :: name, rest)
      else ([], text)
    | [] => ([], [])

/-- A word boundary, perhaps a special one with its name in braces. What is in braces and does not
start with a letter is a repetition count. -/
def readBoundary (flags : Flags) (text : List Char) : Result Assertion :=
  let words := flags.words
  match text with
  | '{' :: rest =>
    match skipSpace flags.verbose rest with
    | [] => .error .badEscape
    | inside =>
      match readBoundaryName flags.verbose inside.length inside with
      | ([], _) => .ok (.wordBoundary words, text)
      | (name, '}' :: rest) =>
        match String.ofList name with
        | "start" => .ok (.wordStart words, rest)
        | "end" => .ok (.wordEnd words, rest)
        | "start-half" => .ok (.noWordBefore words, rest)
        | "end-half" => .ok (.noWordAfter words, rest)
        | _ => .error .badEscape
      | _ => .error .badEscape
  | _ => .ok (.wordBoundary words, text)

/-- The class of a letter such as `d`, and whether it is the complement. -/
def perlClass? (flags : Flags) (c : Char) : Option (CharSet × Bool) :=
  let digit : CharSet := if flags.unicode then CharSet.digits else [(0x30, 0x39)]
  let space : CharSet := if flags.unicode then CharSet.blanks else [(0x09, 0x0D), (0x20, 0x20)]
  let word : CharSet := if flags.unicode then CharSet.wordChars else CharSet.asciiWordChars
  match c with
  | 'd' => some (digit, false)
  | 'D' => some (digit, true)
  | 's' => some (space, false)
  | 'S' => some (space, true)
  | 'w' => some (word, false)
  | 'W' => some (word, true)
  | _ => none

/-- What follows a backslash. -/
def readEscape (flags : Flags) : List Char → Result Escape
  | [] => .error .badEscape
  | c :: rest =>
    if c.isDigit then .error .backReference
    else if isEscapable c then .ok (.letter ⟨c, false⟩, rest)
    else
      match perlClass? flags c with
      | some (set, negated) =>
        if !negated then .ok (.charSet set, rest)
        else if flags.unicode then .ok (.charSet set.complement, rest)
        else .error .notText
      | none =>
        let plain (c : Char) : Result Escape := .ok (.letter ⟨c, false⟩, rest)
        let code (count : Nat) : Result Escape :=
          (readCode flags.verbose count rest).map fun (letter, rest) => (.letter letter, rest)
        let property (negated : Bool) : Result Escape :=
          (readProperty flags negated rest).map fun (set, rest) => (.charSet set, rest)
        match c with
        | 'x' => code 2
        | 'u' => code 4
        | 'U' => code 8
        | 'p' => property false
        | 'P' => property true
        | 'a' => plain '\x07'
        | 'f' => plain '\x0c'
        | 't' => plain '\t'
        | 'n' => plain '\n'
        | 'r' => plain '\r'
        | 'v' => plain '\x0b'
        | 'A' => .ok (.assert .textStart, rest)
        | 'z' => .ok (.assert .textEnd, rest)
        | 'B' => .ok (.assert (.noWordBoundary flags.words), rest)
        | '<' => .ok (.assert (.wordStart flags.words), rest)
        | '>' => .ok (.assert (.wordEnd flags.words), rest)
        | 'b' => (readBoundary flags rest).map fun (assertion, rest) => (.assert assertion, rest)
        | _ => .error .badEscape

/-! ### Classes -/

/-- The operators between the parts of a class. -/
inductive SetOp where
  | intersection
  | difference
  | symmetricDifference
deriving Repr, DecidableEq

def SetOp.combine : SetOp → CharSet → CharSet → CharSet
  | .intersection => Text.Ranges.inter
  | .difference => Text.Ranges.diff
  | .symmetricDifference => Text.Ranges.symmDiff

/-- A set of characters, and how deep its parts are nested. -/
structure Members where
  set : CharSet := []
  depth : Nat := 0

/-- A part of a class under way: its members so far and how many there are. -/
structure Listing where
  members : Members := {}
  count : Nat := 0

namespace Listing

/-- Adds members to those that are there. -/
def add (listing : Listing) (more : Members) : Listing where
  members.set := listing.members.set ++ more.set
  members.depth := max listing.members.depth more.depth
  count := listing.count + 1

/-- The members together: more than one are a part of their own. -/
def close (listing : Listing) : Members where
  set := Text.Ranges.canonical listing.members.set
  depth := if listing.count ≤ 1 then listing.members.depth else listing.members.depth + 1

end Listing

/-- A class of ASCII by name, after its bracket, if there is one. -/
def readAscii? (flags : Flags) (text : List Char) :
    Option (Except PatternError CharSet × List Char) :=
  match text with
  | ':' :: rest =>
    let (negated, rest) :=
      match rest with
      | '^' :: rest => (true, rest)
      | rest => (false, rest)
    let name := rest.takeWhile (· != ':')
    match rest.drop name.length with
    | ':' :: ']' :: rest =>
      (CharSet.ascii? (String.ofList name)).map fun set => (flags.closed negated set, rest)
    | _ => none
  | _ => none

/-- One character or class inside brackets. -/
def readClassItem (flags : Flags) (text : List Char) : Result (Letter ⊕ CharSet) :=
  match text with
  | [] => .error .unclosedClass
  | '\\' :: rest =>
    match readEscape flags rest with
    | .ok (.letter letter, rest) => .ok (.inl letter, rest)
    | .ok (.charSet set, rest) => .ok (.inr set, rest)
    | .ok (.assert _, _) => .error .badEscape
    | .error error => .error error
  | c :: rest => .ok (.inl ⟨c, false⟩, rest)

/-- A character, class or range inside brackets. -/
def readClassRange (flags : Flags) (text : List Char) : Result CharSet :=
  match readClassItem flags text with
  | .error error => .error error
  | .ok (first, rest) =>
    let alone (rest : List Char) : Result CharSet :=
      match first with
      | .inl letter =>
        if letter.isMember flags then .ok (Text.Ranges.single letter.char.toNat, rest)
        else .error .notText
      | .inr set => .ok (set, rest)
    match skipSpace flags.verbose rest with
    | [] => .error .unclosedClass
    | '-' :: after =>
      let next := peekSpace flags.verbose after
      if next = some ']' || next = some '-' then alone ('-' :: after)
      else
        match readClassItem flags (skipSpace flags.verbose after) with
        | .error error => .error error
        | .ok (last, rest) =>
          match first, last with
          | .inl low, .inl high =>
            if high.char < low.char then .error .badRange
            else if !low.isMember flags || !high.isMember flags then .error .notText
            else .ok ([(low.char.toNat, high.char.toNat)], rest)
          | _, _ => .error .badRange
    | rest => alone rest

/-- The hyphens at the start of a class and the text behind them. -/
def readHyphens (verbose : Bool) : Nat → List Char → Nat × List Char
  | 0, text => (0, text)
  | fuel + 1, text =>
    match skipSpace verbose text with
    | '-' :: rest =>
      let (count, rest) := readHyphens verbose fuel rest
      (count + 1, rest)
    | text => (0, text)

mutual

/-- A class after its bracket. The fuel is more than the length of the text, and `nest` is how deep
classes may be nested in it. -/
def readClass (flags : Flags) : Nat → Nat → List Char → Result Members
  | 0, _, _ => .error .unclosedClass
  | _, 0, _ => .error .tooDeep
  | fuel + 1, nest + 1, text =>
    let text := skipSpace flags.verbose text
    let (negated, text) :=
      match text with
      | '^' :: rest => (true, skipSpace flags.verbose rest)
      | text => (false, text)
    match readHyphens flags.verbose text.length text with
    | (0, ']' :: rest) =>
      let start : Listing := Listing.add {} { set := Text.Ranges.single ']'.toNat }
      readParts flags negated fuel nest none start rest
    | (hyphens, rest) =>
      let hyphen : Members := { set := Text.Ranges.single '-'.toNat }
      let start : Listing := (List.replicate hyphens hyphen).foldl Listing.add {}
      readParts flags negated fuel nest none start rest

/-- The parts of a class up to its closing bracket. -/
def readParts (flags : Flags) (negated : Bool) :
    Nat → Nat → Option (SetOp × Members) → Listing → List Char → Result Members
  | 0, _, _, _, _ => .error .unclosedClass
  | fuel + 1, nest, left, listing, text =>
    let combined : Members :=
      let right := listing.close
      match left with
      | some (op, left) =>
        { set := op.combine (flags.close left.set) (flags.close right.set)
          depth := max left.depth right.depth + 1 }
      | none => right
    let operator (op : SetOp) (rest : List Char) : Result Members :=
      readParts flags negated fuel nest (some (op, combined)) {} rest
    match skipSpace flags.verbose text with
    | [] => .error .unclosedClass
    | ']' :: rest =>
      (flags.closed negated combined.set).map fun set => (⟨set, combined.depth + 1⟩, rest)
    | '[' :: rest =>
      match readAscii? flags rest with
      | some (.ok set, rest) =>
        readParts flags negated fuel nest left (listing.add { set }) rest
      | some (.error error, _) => .error error
      | none =>
        match readClass flags fuel nest rest with
        | .ok (members, rest) =>
          readParts flags negated fuel nest left (listing.add members) rest
        | .error error => .error error
    | '&' :: '&' :: rest => operator .intersection rest
    | '-' :: '-' :: rest => operator .difference rest
    | '~' :: '~' :: rest => operator .symmetricDifference rest
    | text =>
      match readClassRange flags text with
      | .ok (set, rest) =>
        readParts flags negated fuel nest left (listing.add { set }) rest
      | .error error => .error error

end

/-! ### Repetitions and groups -/

/-- The greatest repetition count. -/
def maxCount : Nat := Nat.pow 2 32 - 1

/-- The digits of a count. -/
def readDigits (verbose : Bool) : Nat → List Char → List Char × List Char
  | 0, text => ([], text)
  | fuel + 1, text =>
    match text with
    | c :: rest =>
      if c.isDigit then
        let (digits, rest) := readDigits verbose fuel (skipSpace verbose rest)
        (c :: digits, rest)
      else ([], text)
    | [] => ([], [])

/-- Passes over blanks, and over comments behind them where these do not matter. -/
def skipBlanks (verbose : Bool) (text : List Char) : List Char :=
  if text.head?.any Text.isBlank then skipSpace verbose (text.dropWhile Text.isBlank) else text

/-- A count, perhaps between blanks. -/
def readCount (verbose : Bool) (text : List Char) : Result Nat :=
  let text := text.dropWhile Text.isBlank
  let (digits, rest) := readDigits verbose text.length text
  if digits.isEmpty || maxCount < Decimal.ofDigits digits then .error .badRepetition
  else .ok (Decimal.ofDigits digits, skipBlanks verbose rest)

/-- The counts of a repetition after its opening brace. -/
def readCounts (verbose : Bool) (text : List Char) :
    Except PatternError ((Nat × Option Nat) × List Char) := do
  let (least, rest) ← readCount verbose (skipSpace verbose text)
  match rest with
  | '}' :: rest => return ((least, some least), rest)
  | ',' :: rest =>
    match skipSpace verbose rest with
    | '}' :: rest => return ((least, none), rest)
    | rest =>
      let (greatest, rest) ← readCount verbose rest
      match rest with
      | '}' :: rest =>
        if least ≤ greatest then return ((least, some greatest), rest)
        else throw .badRepetition
      | _ => throw .badRepetition
  | _ => throw .badRepetition

/-- Whether a repetition is lazy, and the text behind its mark. -/
def readLazy (text : List Char) : Bool × List Char :=
  match text with
  | '?' :: rest => (true, rest)
  | _ => (false, text)

/-- The flags of a group up to its colon or closing parenthesis. -/
def readFlags (flags : Flags) (value : Bool) (seen : List Char) (negatedLast : Bool) :
    List Char → Result Flags
  | [] => .error .badFlags
  | c :: rest =>
    if c = ':' || c = ')' then
      if negatedLast then .error .badFlags else .ok (flags, c :: rest)
    else if seen.contains c then .error .badFlags
    else if c = '-' then readFlags flags false (c :: seen) true rest
    else
      match flags.set? c value with
      | some flags => readFlags flags value (c :: seen) false rest
      | none => .error .badFlags

/-- The name of a group up to its closing bracket. -/
def readGroupName (text : List Char) : Result String :=
  let name := text.takeWhile (· != '>')
  let rest := text.drop name.length
  let starts (c : Char) : Bool := c = '_' || Text.isAlphabetic c
  let continues (c : Char) : Bool :=
    c = '_' || c = '.' || c = '[' || c = ']' || Text.isAlphanumeric c
  match name, rest with
  | c :: others, _ :: rest =>
    if starts c && others.all continues then .ok (String.ofList name, rest)
    else .error .badGroupName
  | _, _ => .error .badGroupName

/-- What an opening parenthesis introduces. -/
inductive Opening where
  | flags (flags : Flags)
  | group (name : Option String)
  | plain (flags : Flags)

/-- What follows an opening parenthesis, up to the content of the group. -/
def readOpening (flags : Flags) (text : List Char) : Result Opening :=
  let named (rest : List Char) : Result Opening :=
    (readGroupName rest).map fun (name, rest) => (.group (some name), rest)
  match skipSpace flags.verbose text with
  | '?' :: '=' :: _ => .error .lookAround
  | '?' :: '!' :: _ => .error .lookAround
  | '?' :: '<' :: '=' :: _ => .error .lookAround
  | '?' :: '<' :: '!' :: _ => .error .lookAround
  | '?' :: 'P' :: '<' :: rest => named rest
  | '?' :: '<' :: rest => named rest
  | '?' :: rest =>
    match readFlags flags true [] false rest with
    | .ok (inner, ':' :: after) => .ok (.plain inner, after)
    | .ok (inner, _ :: after) =>
      if rest.head? = some ')' then .error .nothingToRepeat else .ok (.flags inner, after)
    | .ok (_, []) => .error .badFlags
    | .error error => .error error
  | rest => .ok (.group none, rest)

/-- The set of a dot. -/
def dotSet (flags : Flags) : CharSet :=
  if flags.dotAll then Text.Ranges.full
  else if flags.crlf then Text.Ranges.complement [(0x0A, 0x0A), (0x0D, 0x0D)]
  else Text.Ranges.complement [(0x0A, 0x0A)]

/-- One letter outside of brackets. -/
def ofLetter (flags : Flags) (letter : Letter) : Except PatternError Pattern :=
  if letter.isText flags then .ok (ofSet (flags.close (Text.Ranges.single letter.char.toNat)))
  else .error .notText

/-! ### Patterns -/

/-- A part of a pattern, and how deep its own parts are nested. Flags are a part that is no
pattern. -/
structure Piece where
  pattern : Option Pattern
  depth : Nat := 0

/-- Pieces one after the other, the last one first. -/
def Piece.join (pieces : List Piece) : Piece where
  pattern := some (concat (pieces.filterMap (·.pattern)).reverse)
  depth :=
    let deepest := pieces.foldl (fun n piece => max n piece.depth) 0
    if pieces.length ≤ 1 then deepest else deepest + 1

/-- A pattern under way: the alternatives before and the pieces of the last one, each the last one
first, the names of the groups and how many groups there are. -/
structure Draft where
  alternatives : List Piece := []
  pieces : List Piece := []
  names : List String := []
  groups : Nat := 0

namespace Draft

def push (draft : Draft) (pattern : Pattern) (depth : Nat) : Draft :=
  { draft with pieces := ⟨some pattern, depth⟩ :: draft.pieces }

/-- The pieces so far together. -/
def whole (draft : Draft) : Piece :=
  let last := Piece.join draft.pieces
  if draft.alternatives.isEmpty then last
  else
    let all := (last :: draft.alternatives).reverse
    { pattern := some (alternate (all.filterMap (·.pattern)))
      depth := all.foldl (fun n piece => max n piece.depth) 0 + 1 }

/-- Repeats the last piece. -/
def repeatLast (draft : Draft) (least : Nat) (greatest : Option Nat) (greedy : Bool) :
    Except PatternError Draft :=
  match draft.pieces with
  | ⟨some part, depth⟩ :: rest =>
    .ok { draft with pieces := ⟨some (rep part least greatest greedy), depth + 1⟩ :: rest }
  | _ => .error .nothingToRepeat

end Draft

/-- A pattern up to the end of its group or of the text. The fuel is more than the length of the
text, and `nest` is how deep groups may be nested in it. -/
def readPattern : Nat → Nat → Flags → Draft → List Char → Result Draft
  | 0, _, _, _, _ => .error .tooLarge
  | _, 0, _, _, _ => .error .tooDeep
  | fuel + 1, nest + 1, flags, draft, text =>
    let push (pattern : Pattern) (depth : Nat) (rest : List Char) : Result Draft :=
      readPattern fuel (nest + 1) flags (draft.push pattern depth) rest
    let rep (least : Nat) (greatest : Option Nat) (rest : List Char) : Result Draft :=
      let (isLazy, rest) := readLazy rest
      match draft.repeatLast least greatest (isLazy == flags.swapGreed) with
      | .ok draft => readPattern fuel (nest + 1) flags draft rest
      | .error error => .error error
    match skipSpace flags.verbose text with
    | [] => .ok (draft, [])
    | ')' :: rest => .ok (draft, ')' :: rest)
    | '|' :: rest =>
      let alternatives := Piece.join draft.pieces :: draft.alternatives
      readPattern fuel (nest + 1) flags { draft with alternatives, pieces := [] } rest
    | '(' :: rest =>
      let group (inner : Flags) (number : Option Nat) (start : Draft) (rest : List Char) :
          Result Draft :=
        match readPattern fuel nest inner start rest with
        | .error error => .error error
        | .ok (inside, ')' :: rest) =>
          let whole := inside.whole
          let part := whole.pattern.getD .empty
          let part := match number with
            | some number => .group number part
            | none => part
          let draft := { draft with names := inside.names, groups := inside.groups }
          readPattern fuel (nest + 1) flags (draft.push part (whole.depth + 1)) rest
        | .ok _ => .error .unclosedGroup
      match readOpening flags rest with
      | .error error => .error error
      | .ok (.flags flags, rest) =>
        let draft := { draft with pieces := ⟨none, 0⟩ :: draft.pieces }
        readPattern fuel (nest + 1) flags draft rest
      | .ok (.plain inner, rest) =>
        group inner none { names := draft.names, groups := draft.groups } rest
      | .ok (.group name, rest) =>
        if name.any draft.names.contains then .error .badGroupName
        else
          let number := draft.groups + 1
          group flags (some number) { names := name.toList ++ draft.names, groups := number } rest
    | '[' :: rest =>
      match readClass flags (rest.length + 1) maxDepth rest with
      | .ok (members, rest) => push (ofSet members.set) members.depth rest
      | .error error => .error error
    | '?' :: rest => rep 0 (some 1) rest
    | '*' :: rest => rep 0 none rest
    | '+' :: rest => rep 1 none rest
    | '{' :: rest =>
      match readCounts flags.verbose rest with
      | .ok ((least, greatest), rest) => rep least greatest (skipSpace flags.verbose rest)
      | .error error => .error error
    | '\\' :: rest =>
      match readEscape flags rest with
      | .error error => .error error
      | .ok (.letter letter, rest) =>
        match ofLetter flags letter with
        | .ok part => push part 0 rest
        | .error error => .error error
      | .ok (.charSet set, rest) => push (ofSet set) 0 rest
      | .ok (.assert assertion, rest) => push (.assert assertion) 0 rest
    | '.' :: rest =>
      if flags.unicode then push (ofSet (dotSet flags)) 0 rest else .error .notText
    | '^' :: rest =>
      let assertion : Assertion :=
        if !flags.multiLine then .textStart
        else if flags.crlf then .windowsLineStart else .lineStart
      push (.assert assertion) 0 rest
    | '$' :: rest =>
      let assertion : Assertion :=
        if !flags.multiLine then .textEnd
        else if flags.crlf then .windowsLineEnd else .lineEnd
      push (.assert assertion) 0 rest
    | c :: rest =>
      match ofLetter flags ⟨c, false⟩ with
      | .ok part => push part 0 rest
      | .error error => .error error

/-- The pattern that a text writes. -/
def parse (text : String) : Except PatternError Pattern :=
  let chars := text.toList
  match readPattern (chars.length + 1) (maxDepth + 1) {} {} chars with
  | .error error => .error error
  | .ok (_, _ :: _) => .error .unopenedGroup
  | .ok (draft, []) =>
    let whole := draft.whole
    let pattern := whole.pattern.getD .empty
    if maxDepth < whole.depth then .error .tooDeep
    else if pattern.fits then .ok pattern
    else .error .tooLarge

end Pattern

end Formwork
