import Formwork.Text.Age
import Formwork.Text.Case
import Formwork.Text.Script
import Formwork.Text.Trait

/-!
# Character sets

The sets of characters that patterns are made of: those of categories and derived properties, and
the closure of a set under case. Texts follow a later version of the standard than patterns, which
know the characters of version 16 only: a later character has no property but to be unassigned.
-/

namespace Formwork

/-- A set of characters, as ranges of code points in ascending order. -/
abbrev CharSet := Text.Ranges

namespace CharSet

open Text Text.Ranges

/-- The characters of some ranges that patterns know. -/
def knownOf (ranges : Ranges) : CharSet := inter ranges Age.known

/-- The ranges of a category, as the tables have them. -/
def tabled (category : Category) : Ranges :=
  ((Category.table.find? fun (other, _) => other == category).map (·.2)).getD []

/-- U+0295, which was a lower-case letter before it was a letter without case. -/
def reversedGlottal : CharSet := single 0x295

/-- The characters of some categories. The unassigned ones are those of no other category. -/
def ofCategories (categories : List Category) : CharSet :=
  let assigned := knownOf (categories.flatMap tabled)
  let assigned :=
    match categories.contains .lowercaseLetter, categories.contains .otherLetter with
    | true, false => union assigned reversedGlottal
    | false, true => diff assigned reversedGlottal
    | _, _ => assigned
  if categories.contains .unassigned then
    union assigned (complement (knownOf (Category.table.flatMap (·.2))))
  else assigned

def letters : List Category :=
  [.uppercaseLetter, .lowercaseLetter, .titlecaseLetter, .modifierLetter, .otherLetter]

def marks : List Category := [.nonspacingMark, .spacingMark, .enclosingMark]

/-! ### Derived properties -/

def alphabetic : CharSet :=
  union (ofCategories (.letterNumber :: letters)) (knownOf otherAlphabetic)

def lowercase : CharSet := union (ofCategories [.lowercaseLetter]) (knownOf otherLowercase)

def uppercase : CharSet := union (ofCategories [.uppercaseLetter]) (knownOf otherUppercase)

def cased : CharSet :=
  union (ofCategories [.titlecaseLetter]) (union lowercase uppercase)

def caseIgnorable : CharSet :=
  union (knownOf otherCaseIgnorable)
    (ofCategories [.nonspacingMark, .enclosingMark, .format, .modifierLetter, .modifierSymbol])

/-- The code points that a list of shifts takes elsewhere. -/
def shifted (shifts : List Shift) : Ranges :=
  shifts.flatMap fun shift =>
    if shift.step = 1 then [(shift.first, shift.last)]
    else (List.range (shift.last - shift.first + 1)).filterMap fun i =>
      if i % shift.step = 0 then some (shift.first + i, shift.first + i) else none

/-- The later characters have the other case of two characters that were there before. -/
def laterPartners : CharSet := [(0xA7D3, 0xA7D3), (0xA7D5, 0xA7D5)]

def changesLowered : CharSet :=
  knownOf ((0x41, 0x5A) :: (0x130, 0x130) :: shifted lowerShifts)

def changesUppered : CharSet :=
  diff (knownOf ((0x61, 0x7A) :: upperExpansions.map (fun (code, _) => (code, code)) ++
    shifted upperShifts)) laterPartners

def changesTitled : CharSet := union Trait.titledOnly (diff changesUppered Trait.neverTitled)

def changesFolded : CharSet := union Trait.foldedOnly (diff changesLowered Trait.neverFolded)

def changesCased : CharSet := union changesLowered (union changesUppered changesTitled)

/-- The characters that extend a grapheme and are neither nonspacing nor enclosing marks. -/
def otherGraphemeExtend : CharSet := knownOf ((0xFF9E, 0xFF9F) :: otherCombining)

def graphemeExtend : CharSet :=
  union otherGraphemeExtend (ofCategories [.nonspacingMark, .enclosingMark])

def graphemeBase : CharSet :=
  diff (complement (ofCategories [.control, .format, .privateUse, .unassigned, .lineSeparator,
    .paragraphSeparator])) graphemeExtend

def math : CharSet := union (ofCategories [.mathSymbol]) (Trait.find "othermath")

def idStart : CharSet :=
  diff (union (ofCategories (.letterNumber :: letters)) (Trait.find "otheridstart"))
    (union (Trait.find "patternsyntax") (Trait.find "patternwhitespace"))

def idContinue : CharSet :=
  union idStart (union (Trait.find "otheridcontinue")
    (ofCategories [.nonspacingMark, .spacingMark, .decimalNumber, .connectorPunctuation]))

/-- The derived properties with their names, without capitals and separators. -/
def derived : List (List String × CharSet) := [
  (["alphabetic", "alpha"], alphabetic),
  (["lowercase", "lower"], lowercase),
  (["uppercase", "upper"], uppercase),
  (["cased"], cased),
  (["caseignorable", "ci"], caseIgnorable),
  (["changeswhenlowercased", "cwl"], changesLowered),
  (["changeswhenuppercased", "cwu"], changesUppered),
  (["changeswhentitlecased", "cwt"], changesTitled),
  (["changeswhencasefolded", "cwcf"], changesFolded),
  (["changeswhencasemapped", "cwcm"], changesCased),
  (["graphemeextend", "grext"], graphemeExtend),
  (["graphemebase", "grbase"], graphemeBase),
  (["math"], math),
  (["idstart", "ids"], idStart),
  (["idcontinue", "idc"], idContinue),
  (["xidstart", "xids"], diff idStart Trait.innerStart),
  (["xidcontinue", "xidc"], diff idContinue Trait.innerContinue),
  (["otheralphabetic", "oalpha"], knownOf otherAlphabetic),
  (["otherlowercase", "olower"], knownOf otherLowercase),
  (["otheruppercase", "oupper"], knownOf otherUppercase),
  (["othergraphemeextend", "ogrext"], otherGraphemeExtend)]

/-! ### Classes of letters -/

/-- Decimal digits of any script. -/
def digits : CharSet := ofCategories [.decimalNumber]

/-- White space. -/
def blanks : CharSet := Trait.find "whitespace"

/-- The characters of words: letters, marks, decimal digits, connectors and the two joiners. -/
def wordChars : CharSet :=
  union alphabetic (union (Trait.find "joincontrol")
    (ofCategories (.decimalNumber :: .connectorPunctuation :: marks)))

/-- The characters of words in ASCII. -/
def asciiWordChars : CharSet := [(0x30, 0x39), (0x41, 0x5A), (0x5F, 0x5F), (0x61, 0x7A)]

/-! ### Case -/

/-- The characters that folding changes, with what it changes them to. -/
def foldPairs : List (Nat × Nat) :=
  (foldShifts.flatMap fun shift =>
    (List.range (shift.last - shift.first + 1)).filterMap fun i =>
      (shift.target? (shift.first + i)).map ((shift.first + i, ·))).filter fun (source, target) =>
    Age.known.any (fun (first, last) => first ≤ source && source ≤ last) &&
      Age.known.any fun (first, last) => first ≤ target && target ≤ last

/-- Whether a code point is in a set. -/
def has (set : CharSet) (code : Nat) : Bool :=
  set.any fun (first, last) => first ≤ code && code ≤ last

/-- The set with all cases of its characters. -/
def foldCase (set : CharSet) : CharSet :=
  let folded := foldPairs.filterMap fun (source, target) =>
    if has set source || has set target then some target else none
  let cases := foldPairs.filter fun (_, target) => folded.contains target
  canonical (set ++ folded.map (fun code => (code, code)) ++
    cases.map fun (source, _) => (source, source))

/-- The set with both cases of its letters in ASCII. -/
def foldAscii (set : CharSet) : CharSet :=
  let lower := (inter set [(0x41, 0x5A)]).map fun (first, last) => (first + 32, last + 32)
  let upper := (inter set [(0x61, 0x7A)]).map fun (first, last) => (first - 32, last - 32)
  canonical (set ++ lower ++ upper)

end CharSet

end Formwork
