import Formwork.Pattern.CharSet

/-!
# Patterns

The trees of the patterns that answers are matched against. A pattern is matched by the sets of
positions that it leads to: `Pattern.ends` takes the positions where a part may start to those where
it may end, and a text matches if the pattern leads from some position to some other.

Trees are built by `concat`, `alternate` and `rep`, which leave out what makes no difference: parts
that are empty, sequences in sequences, alternatives of single characters, what alternatives have in
common at their start, and repetitions of what takes no text.
-/

namespace Formwork

/-- Which characters words consist of. -/
inductive WordKind where
  | ascii
  | unicode
deriving Repr, DecidableEq

/-- Whether a character belongs to words. -/
def WordKind.has (kind : WordKind) (c : Char) : Bool :=
  match kind with
  | .ascii => Text.Ranges.contains CharSet.asciiWordChars c
  | .unicode => Text.Ranges.contains CharSet.wordChars c

/-- Conditions on a position in a text. -/
inductive Assertion where
  | textStart
  | textEnd
  | lineStart
  | lineEnd
  /-- Line starts and ends where a carriage return with a line feed is one line end. -/
  | windowsLineStart
  | windowsLineEnd
  | wordBoundary (words : WordKind)
  | noWordBoundary (words : WordKind)
  | wordStart (words : WordKind)
  | wordEnd (words : WordKind)
  | noWordBefore (words : WordKind)
  | noWordAfter (words : WordKind)
deriving Repr, DecidableEq

namespace Assertion

/-- Whether a condition holds between two characters, of which the first or last may be missing. -/
def holds (assertion : Assertion) (before after : Option Char) : Bool :=
  let isAt (words : WordKind) (c : Option Char) : Bool := (c.map words.has).getD false
  match assertion with
  | .textStart => before.isNone
  | .textEnd => after.isNone
  | .lineStart => before.isNone || before == some '\n'
  | .lineEnd => after.isNone || after == some '\n'
  | .windowsLineStart =>
    before.isNone || before == some '\n' || (before == some '\r' && after != some '\n')
  | .windowsLineEnd =>
    after.isNone || after == some '\r' || (after == some '\n' && before != some '\r')
  | .wordBoundary words => isAt words before != isAt words after
  | .noWordBoundary words => isAt words before == isAt words after
  | .wordStart words => !isAt words before && isAt words after
  | .wordEnd words => isAt words before && !isAt words after
  | .noWordBefore words => !isAt words before
  | .noWordAfter words => !isAt words after

end Assertion

/-- A pattern. -/
inductive Pattern where
  | empty
  /-- Characters one after the other. -/
  | literal (chars : List Char)
  /-- One character of a set. -/
  | one (set : CharSet)
  | assert (assertion : Assertion)
  /-- At least `least` times, and at most `greatest` times if there is such a limit. -/
  | times (part : Pattern) (least : Nat) (greatest : Option Nat) (greedy : Bool)
  /-- A group, with its number among the groups of the whole pattern. -/
  | group (number : Nat) (part : Pattern)
  | seq (parts : List Pattern)
  | alt (parts : List Pattern)

namespace Pattern

instance : Inhabited Pattern := ⟨.empty⟩

mutual

/-- Whether two patterns are written alike. -/
def same : Pattern → Pattern → Bool
  | .empty, .empty => true
  | .literal a, .literal b => a == b
  | .one a, .one b => a == b
  | .assert a, .assert b => a == b
  | .times a least greatest greedy, .times b least' greatest' greedy' =>
    least == least' && greatest == greatest' && greedy == greedy' && same a b
  | .group m a, .group n b => m == n && same a b
  | .seq a, .seq b => sameAll a b
  | .alt a, .alt b => sameAll a b
  | _, _ => false

/-- Whether two lists of patterns are written alike. -/
def sameAll : List Pattern → List Pattern → Bool
  | [], [] => true
  | a :: as, b :: bs => same a b && sameAll as bs
  | _, _ => false

end

mutual

/-- How many nodes a pattern has. -/
def size : Pattern → Nat
  | .times part .. => size part + 1
  | .group _ part => size part + 1
  | .seq parts => sizeAll parts + 1
  | .alt parts => sizeAll parts + 1
  | _ => 1

/-- How many nodes some patterns have. -/
def sizeAll : List Pattern → Nat
  | [] => 0
  | part :: rest => size part + sizeAll rest

end

mutual

/-- Whether a pattern takes no text, whatever it matches. -/
def isWidthless : Pattern → Bool
  | .empty | .assert _ => true
  | .literal _ | .one _ => false
  | .times part _ greatest _ => greatest.isSome && isWidthless part
  | .group _ part => isWidthless part
  | .seq parts | .alt parts => areWidthless parts

/-- Whether all of some patterns take no text. -/
def areWidthless : List Pattern → Bool
  | [] => true
  | part :: rest => isWidthless part && areWidthless rest

end

/-! ### Building -/

/-- One character of a set. The only character of a set is a text. -/
def ofSet (set : CharSet) : Pattern :=
  match set with
  | [(first, last)] => if first = last then .literal [Char.ofNat first] else .one set
  | _ => .one set

/-- Puts a part before others: an empty one is left out, and texts that meet are joined. -/
def prepend (part : Pattern) (rest : List Pattern) : List Pattern :=
  match part, rest with
  | .empty, rest => rest
  | .literal a, .literal b :: rest => .literal (a ++ b) :: rest
  | part, rest => part :: rest

/-- Parts one after the other. -/
def concat (parts : List Pattern) : Pattern :=
  let flat := parts.flatMap fun part =>
    match part with
    | .seq parts => parts
    | part => [part]
  match flat.foldr prepend [] with
  | [] => .empty
  | [part] => part
  | parts => .seq parts

/-- The characters that some patterns take if each of them is a single one. -/
def singleChars? : List Pattern → Option CharSet
  | [] => some []
  | .literal [c] :: rest => (singleChars? rest).map ((c.toNat, c.toNat) :: ·)
  | _ => none

/-- The characters that some patterns take if each of them takes one of a set. -/
def charSets? : List Pattern → Option CharSet
  | [] => some []
  | .one set :: rest => (charSets? rest).map (set ++ ·)
  | _ => none

/-- How many parts two sequences have in common at their start. -/
def sharedCount : List Pattern → List Pattern → Nat
  | a :: as, b :: bs => if same a b then sharedCount as bs + 1 else 0
  | _, _ => 0

/-- The parts of a sequence, if it is one. -/
def parts? : Pattern → Option (List Pattern)
  | .seq parts => some parts
  | _ => none

/-- One of some alternatives. What they have in common at their start is taken out as often as the
fuel says. -/
def alternateUpTo : Nat → List Pattern → Pattern
  | fuel, alternatives =>
    let flat := alternatives.flatMap fun part =>
      match part with
      | .alt parts => parts
      | part => [part]
    match flat with
    | [part] => part
    | _ =>
      match singleChars? flat <|> charSets? flat with
      | some set => ofSet (Text.Ranges.canonical set)
      | none =>
        match fuel, flat.mapM parts? with
        | fuel + 1, some (first :: others) =>
          let count := others.foldl (fun n other => min n (sharedCount first other)) first.length
          if count = 0 then .alt flat
          else
            let rests := (first :: others).map fun parts => concat (parts.drop count)
            concat (first.take count ++ [alternateUpTo fuel rests])
        | _, _ => .alt flat

/-- One of some alternatives. -/
def alternate (alternatives : List Pattern) : Pattern :=
  alternateUpTo (sizeAll alternatives) alternatives

/-- A repeated part. What takes no text need not be repeated more than once. -/
def rep (part : Pattern) (least : Nat) (greatest : Option Nat) (greedy : Bool) : Pattern :=
  let (least, greatest) :=
    if isWidthless part then (min least 1, some (min (greatest.getD 1) 1)) else (least, greatest)
  if greatest = some 0 then .empty
  else if least = 1 ∧ greatest = some 1 then part
  else .times part least greatest greedy

/-! ### Matching -/

/-- Positions in a text, in ascending order. -/
abbrev Positions := List Nat

/-- The positions of two lists. -/
def union : Positions → Positions → Positions
  | [], b => b
  | a, [] => a
  | i :: a, j :: b =>
    if i < j then i :: union a (j :: b)
    else if j < i then j :: union (i :: a) b
    else i :: union a b

/-- The positions of the first list that are not in the second. -/
def without : Positions → Positions → Positions
  | [], _ => []
  | a, [] => a
  | i :: a, j :: b =>
    if i < j then i :: without a (j :: b)
    else if j < i then without (i :: a) b
    else without a b

/-- The positions that a step leads to, taken a number of times or until nothing new is found. -/
def closure (step : Positions → Positions) : Nat → Positions → Positions → Positions
  | 0, _, found => found
  | count + 1, front, found =>
    let fresh := without (step front) found
    if fresh.isEmpty then found else closure step count fresh (union found fresh)

/-- The positions that a step leads to when it is taken a number of times, or until it leads to the
positions where it starts. -/
def power (step : Positions → Positions) : Nat → Positions → Positions
  | 0, found => found
  | count + 1, found =>
    let next := step found
    if next == found then found else power step count next

/-- The character before a position. -/
def before (text : Array Char) (i : Nat) : Option Char := if i = 0 then none else text[i - 1]?

/-- Whether a text holds some characters at a position. -/
def holdsAt (text : Array Char) (i : Nat) : List Char → Bool
  | [] => true
  | c :: rest => text[i]? == some c && holdsAt text (i + 1) rest

mutual

/-- Where a pattern can end if it starts at one of some positions. -/
def ends (text : Array Char) : Pattern → Positions → Positions
  | .empty, starts => starts
  | .literal chars, starts =>
    (starts.filter fun i => holdsAt text i chars).map (· + chars.length)
  | .one set, starts =>
    (starts.filter fun i => (text[i]?.map set.contains).getD false).map (· + 1)
  | .assert assertion, starts =>
    starts.filter fun i => assertion.holds (before text i) text[i]?
  | .times part least greatest _, starts =>
    let reached := power (ends text part) least starts
    let more := match greatest with
      | some greatest => min (greatest - least) (text.size + 1)
      | none => text.size + 1
    closure (ends text part) more reached reached
  | .group _ part, starts => ends text part starts
  | .seq parts, starts => endsOfSeq text parts starts
  | .alt parts, starts => endsOfAlt text parts starts

/-- Where parts one after the other can end. -/
def endsOfSeq (text : Array Char) : List Pattern → Positions → Positions
  | [], starts => starts
  | part :: rest, starts => endsOfSeq text rest (ends text part starts)

/-- Where one of some parts can end. -/
def endsOfAlt (text : Array Char) : List Pattern → Positions → Positions
  | [], _ => []
  | part :: rest, starts => union (ends text part starts) (endsOfAlt text rest starts)

end

/-- Whether the pattern matches somewhere in a text. -/
def isMatch (pattern : Pattern) (text : String) : Bool :=
  let chars := text.toList.toArray
  !(pattern.ends chars (List.range (chars.size + 1))).isEmpty

end Pattern

end Formwork
