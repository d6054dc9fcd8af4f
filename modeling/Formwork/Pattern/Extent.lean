import Std.Data.HashMap
import Formwork.Pattern.Tree

/-!
# How large the automaton of a pattern is

A pattern is accepted if its automaton on the bytes of UTF-8 fits into `Extent.limit`, forward from
the start of a match and backward from its end. `Pattern.fits` follows the construction of both
without keeping them: it counts states and the room for their transitions.

A repeated part is built again for each repetition. The bytes of a set of characters are built as a
tree in which equal states are shared; they are looked up by a hash in a table with a fixed number
of places, where a newer state takes the place of an older one.
-/

namespace Formwork.Pattern

/-- The states of an automaton under way, and the room for their transitions in bytes. -/
structure Extent where
  states : Nat := 0
  room : Nat := 0

namespace Extent

/-- The room that an automaton may take. -/
def limit : Nat := 10 * 1024 * 1024

/-- The room of a state without its transitions. -/
def stateRoom : Nat := 32

/-- The room of a transition that bytes lead along. -/
def byteRoom : Nat := 8

/-- The room of a transition that takes no byte. -/
def jumpRoom : Nat := 4

/-- Whether an automaton is within the limit. -/
def fits (extent : Extent) : Bool := stateRoom * extent.states + extent.room ≤ limit

/-- A step of the construction, unless the automaton grows too large. -/
abbrev Build (α : Type) := StateT Extent Option α

/-- Makes room for transitions. -/
def grow (room : Nat) : Build Unit := fun extent =>
  let extent := { extent with room := extent.room + room }
  if extent.fits then some ((), extent) else none

/-- Adds a state with room for its transitions, and gives its number. -/
def addState (room : Nat) : Build Nat := fun extent =>
  let next : Extent := ⟨extent.states + 1, extent.room + room⟩
  if next.fits then some (extent.states, next) else none

/-- Adds a number of states. -/
def addStates (count : Nat) : Build Unit := fun extent =>
  let next : Extent := { extent with states := extent.states + count }
  if next.fits then some ((), next) else none

/-! ### Bytes of characters -/

/-- The ranges of bytes that the characters of a range consist of, byte by byte. -/
abbrev ByteRanges := List (Nat × Nat)

/-- The bytes of a character. -/
def bytesOf (code : Nat) : List Nat := (String.utf8EncodeChar (Char.ofNat code)).map (·.toNat)

/-- The last code point of a first part of a range, if the bytes of the range are not ranges on
their own: characters of several lengths, or not all bytes after one that varies. -/
def cut? (first last : Nat) : Option Nat :=
  let byLength := [0x7F, 0x7FF, 0xFFFF].find? fun greatest => first ≤ greatest && greatest < last
  let byBlock := [64, 4096, 262144].findSome? fun block =>
    if last ≤ 0x7F || first / block = last / block then none
    else if first % block ≠ 0 then some (first / block * block + (block - 1))
    else if last % block ≠ block - 1 then some (last / block * block - 1)
    else none
  byLength <|> byBlock

/-- The byte ranges of the characters of a range without surrogates, in ascending order. -/
def byteRanges (first last : Nat) : List ByteRanges :=
  match cut? first last with
  | some middle =>
    if _h : first ≤ middle ∧ middle < last then
      byteRanges first middle ++ byteRanges (middle + 1) last
    else []
  | none => [(bytesOf first).zip (bytesOf last)]
termination_by last - first

/-- The byte ranges of a set of characters, in ascending order. -/
def setBytes (set : CharSet) : List ByteRanges :=
  set.flatMap fun (first, last) =>
    (if first < 0xD800 then byteRanges first (min last 0xD7FF) else []) ++
      (if 0xDFFF < last then byteRanges (max first 0xE000) last else [])

/-! ### Shared states -/

/-- Numbers mixed into one. -/
def mix (numbers : List Nat) : UInt64 :=
  numbers.foldl (fun hash n => (hash ^^^ n.toUInt64) * 1099511628211) 14695981039346656037

/-- States that were built, by the place of their key in a table. -/
abbrev Shared := Std.HashMap Nat (List Nat × Nat)

/-- The state of a key: the one in the key's place among `places` if it has the same key, else a
new one. -/
def share (places : Nat) (key : List Nat) (room : Nat) : StateT Shared (StateT Extent Option) Nat :=
  fun shared extent =>
    let place := (mix key).toNat % places
    let known? := shared[place]?.bind fun (other, state) => if other = key then some state else none
    match known? with
    | some state => some ((state, shared), extent)
    | none =>
      (addState room extent).map fun (state, extent) =>
        ((state, shared.insert place (key, state)), extent)

/-- Byte ranges by their first range, which neighbours have in common. -/
def byHead : List ByteRanges → List ((Nat × Nat) × List ByteRanges)
  | [] => []
  | [] :: rest => byHead rest
  | (range :: tail) :: rest =>
    match byHead rest with
    | (other, tails) :: groups =>
      if other = range then (range, tail :: tails) :: groups
      else (range, [tail]) :: (other, tails) :: groups
    | [] => [(range, [tail])]

/-- Builds the tree of some byte ranges of at most `depth` bytes that leads to a state, and gives
the state that it starts with. -/
def buildTree (target : Nat) :
    Nat → List ByteRanges → StateT Shared (StateT Extent Option) Nat
  | 0, _ => pure target
  | depth + 1, sequences => do
    let steps ← (byHead sequences).mapM fun (range, tails) => do
      let next ← if tails.all List.isEmpty then pure target else buildTree target depth tails
      return [range.1, range.2, next]
    share 10000 steps.flatten (byteRoom * steps.length)

/-- Builds the way of one sequence of byte ranges back from a state. -/
def buildBack (target : Nat) : ByteRanges → StateT Shared (StateT Extent Option) Unit
  | [] => do grow jumpRoom
  | range :: rest => do
    let state ← share 1000 [target, range.1, range.2] 0
    buildBack state rest

/-- Builds a set of characters. -/
def buildSet (backward : Bool) (set : CharSet) : Build Unit := do
  if set.all fun (_, last) => last < 128 then
    addStates 1
    let _ ← addState (byteRoom * set.length)
  else if backward then
    addStates 1
    let last ← addState 0
    let _ ← ((setBytes set).forM (buildBack last)).run {}
  else
    let last ← addState 0
    let _ ← (buildTree last 4 (setBytes set)).run {}

/-! ### Texts that are alternatives -/

/-- The words after each first letter, in the order of the letters' first occurrence. -/
def byFirst : List (List Nat) → List (Nat × List (List Nat))
  | [] => []
  | [] :: rest => byFirst rest
  | (letter :: word) :: rest =>
    let groups := byFirst rest
    let same := (groups.lookup letter).getD []
    (letter, word :: same) :: groups.filter (·.1 != letter)

/-- The words between those that are empty. The empty words at the start count as one. -/
def betweenEmpty (words : List (List Nat)) : List (List (List Nat)) :=
  match words with
  | [] :: rest => [] :: runs (rest.dropWhile (·.isEmpty))
  | words => runs words
where
  /-- The words before the first empty one, and those between the others. -/
  runs : List (List Nat) → List (List (List Nat))
    | [] => [[]]
    | [] :: rest => [] :: runs rest
    | word :: rest =>
      match runs rest with
      | run :: others => (word :: run) :: others
      | [] => [[word]]

/-- The extent of the tree of some words of at most `depth` letters, without the state that it leads
to: a state for the letters of each run of words, and one for the choice between the runs. -/
def wordTree : Nat → List (List Nat) → Extent
  | 0, _ => {}
  | depth + 1, words =>
    let runs := betweenEmpty words
    let start : Extent := ⟨1, jumpRoom * (runs.length - 1)⟩
    runs.foldl (fun extent run =>
      let letters := byFirst run
      let extent : Extent :=
        if letters.isEmpty then extent
        else
          let room := if letters.length = 1 then 0 else byteRoom * letters.length
          ⟨extent.states + 1, extent.room + jumpRoom + room⟩
      letters.foldl (fun extent (_, rests) =>
        if rests.all List.isEmpty then extent
        else
          let tree := wordTree depth rests
          ⟨extent.states + tree.states, extent.room + tree.room⟩) extent) start

/-- The bytes of some texts, if all patterns are texts. -/
def wordsOf? : List Pattern → Option (List (List Nat))
  | [] => some []
  | .literal chars :: rest =>
    (wordsOf? rest).map ((chars.flatMap fun c => bytesOf c.toNat) :: ·)
  | _ => none

/-! ### Patterns -/

mutual

/-- How many characters a pattern takes at least, if it can match at all. -/
def leastLength? : Pattern → Option Nat
  | .empty | .assert _ => some 0
  | .literal chars => some chars.length
  | .one set => if set.isEmpty then none else some 1
  | .times part least .. => (leastLength? part).map (least * ·)
  | .group _ part => leastLength? part
  | .seq parts => leastOfSeq? parts
  | .alt parts => leastOfAlt? parts

def leastOfSeq? : List Pattern → Option Nat
  | [] => some 0
  | part :: rest =>
    match leastLength? part, leastOfSeq? rest with
    | some m, some n => some (m + n)
    | _, _ => none

def leastOfAlt? : List Pattern → Option Nat
  | [] => none
  | [part] => leastLength? part
  | part :: rest =>
    match leastLength? part, leastOfAlt? rest with
    | some m, some n => some (min m n)
    | _, _ => none

end

mutual

/-- Whether a pattern matches at one end of a text only: at its end, or at its start. -/
def isAnchored (atEnd : Bool) : Pattern → Bool
  | .assert assertion => assertion == if atEnd then .textEnd else .textStart
  | .times part least .. => 0 < least && isAnchored atEnd part
  | .group _ part => isAnchored atEnd part
  | .seq parts => isAnchoredSeq atEnd parts
  | .alt parts => areAnchored atEnd parts
  | _ => false

/-- Whether a sequence is anchored by a part with nothing but widthless parts outside of it. -/
def isAnchoredSeq (atEnd : Bool) : List Pattern → Bool
  | [] => false
  | part :: rest =>
    if atEnd then
      isAnchoredSeq atEnd rest || (isAnchored atEnd part && areWidthless rest)
    else isAnchored atEnd part || (isWidthless part && isAnchoredSeq atEnd rest)

/-- Whether all alternatives are anchored. -/
def areAnchored (atEnd : Bool) : List Pattern → Bool
  | [] => true
  | part :: rest => isAnchored atEnd part && areAnchored atEnd rest

end

/-- A part of an automaton. What follows it is one more jump of its last state if that state has
several, which the answer says. -/
abbrev BuildPart := Build Bool

/-- Leads on from a part. -/
def leave (branches : Bool) : Build Unit := grow (if branches then jumpRoom else 0)

/-- Builds a part a number of times in a row. -/
def buildCopies (part : BuildPart) : Nat → BuildPart
  | 0, extent => (addState 0 extent).map fun (_, extent) => (false, extent)
  | 1, extent => part extent
  | count + 2, extent =>
    match part extent with
    | none => none
    | some (branches, extent) =>
      match leave branches extent with
      | none => none
      | some (_, extent) => buildCopies part (count + 1) extent

/-- Builds a part that may be left out, a number of times in a row. -/
def buildOptional (part : BuildPart) : Nat → Bool → Build Unit
  | 0, branches, extent => leave branches extent
  | count + 1, branches, extent =>
    let built : Option (Bool × Extent) := StateT.run (do
      let _ ← addState (2 * jumpRoom)
      leave branches
      part) extent
    match built with
    | none => none
    | some (branches, extent) => buildOptional part count branches extent

mutual

/-- Builds a pattern, forward or backward. -/
def build (backward : Bool) : Pattern → BuildPart
  | .empty | .assert _ => do
    addStates 1
    return false
  | .literal chars => do
    addStates (chars.foldl (fun n c => n + c.utf8Size) 0)
    return false
  | .one set => do
    buildSet backward set
    return false
  | .group _ part => do
    if backward then build backward part
    else
      addStates 1
      leave (← build backward part)
      addStates 1
      return false
  | .seq parts => buildSeq backward parts
  | .alt parts => do
    match wordsOf? parts with
    | some words =>
      let words := if backward then words.map List.reverse else words
      let depth := words.foldl (fun n word => max n word.length) 0
      let tree := wordTree (depth + 1) words
      addStates (tree.states + 1)
      grow tree.room
    | none => buildAlt backward 0 parts
    return false
  | .times part least greatest _ =>
    let part' : BuildPart := build backward part
    match least, greatest with
    | 0, some 1 => do
      let _ ← addState (2 * jumpRoom)
      leave (← part')
      addStates 1
      return false
    | 0, none => do
      if 0 < (leastLength? part).getD 0 then
        let _ ← addState jumpRoom
        leave (← part')
        return true
      else
        leave (← part')
        let _ ← addState (2 * jumpRoom)
        let _ ← addState (2 * jumpRoom)
        addStates 1
        return false
    | 1, none => do
      leave (← part')
      let _ ← addState jumpRoom
      return true
    | least, none => do
      leave (← buildCopies part' (least - 1))
      leave (← part')
      let _ ← addState jumpRoom
      return true
    | least, some greatest => do
      let branches ← buildCopies part' least
      if least = greatest then return branches
      else
        addStates 1
        buildOptional part' (greatest - least) branches
        return false

/-- Builds parts one after the other, the last one first if backward. -/
def buildSeq (backward : Bool) : List Pattern → BuildPart
  | [] => do
    addStates 1
    return false
  | [part] => build backward part
  | part :: rest => do
    if backward then
      leave (← buildSeq backward rest)
      build backward part
    else
      leave (← build backward part)
      buildSeq backward rest

/-- Builds alternatives, of which some are built already. The states where they part and meet follow
the second one. -/
def buildAlt (backward : Bool) (built : Nat) : List Pattern → Build Unit
  | [] => pure ()
  | part :: rest => do
    let branches ← build backward part
    if built = 1 then addStates 2
    grow jumpRoom
    leave branches
    buildAlt backward (built + 1) rest

end

/-- Builds what a search needs for a pattern: a loop over the bytes before it unless it is anchored,
the pattern itself, which is a group of its own when read forward, and the last state. -/
def buildSearch (backward : Bool) (pattern : Pattern) : Build Unit := do
  if isAnchored backward pattern then addStates 1
  else
    addStates 3
    grow (byteRoom + 2 * jumpRoom)
  if backward then leave (← build backward pattern)
  else
    addStates 1
    leave (← build backward pattern)
    addStates 1
  addStates 1

end Extent

/-- Whether the automata of a pattern are within the limit. -/
def fits (pattern : Pattern) : Bool :=
  (Extent.buildSearch false pattern {}).isSome && (Extent.buildSearch true pattern {}).isSome

end Formwork.Pattern
