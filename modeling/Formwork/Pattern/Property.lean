import Formwork.Pattern.CharSet

/-!
# Named character sets

The sets that patterns name: categories, scripts, properties and the parts of boundaries, and the
classes of ASCII. Capitals, blanks, hyphens and underscores in a name do not matter.
-/

namespace Formwork.CharSet

open Text Text.Ranges

/-- A name without capitals, separators and other characters than ASCII. An `is` in front is left
out, except that `isc` is not `c`. -/
def normalize (name : List Char) : String :=
  let plain (name : List Char) : List Char :=
    (name.filter fun c => c.toNat < 128 && c != ' ' && c != '-' && c != '_').map Char.toLower
  match name with
  | i :: s :: rest =>
    if i.toLower = 'i' && s.toLower = 's' then
      if plain rest = ['c'] then "isc" else String.ofList (plain rest)
    else String.ofList (plain name)
  | _ => String.ofList (plain name)

/-- The entry of a table that has a name. -/
def findNamed {α : Type} (table : List (List String × α)) (name : String) : Option α :=
  (table.find? fun (names, _) => names.contains name).map (·.2)

/-! ### Categories -/

/-- The categories with their names. -/
def categoryNames : List (List String × List Category) := [
  (["l", "letter"], letters),
  (["lc", "casedletter"], [.uppercaseLetter, .lowercaseLetter, .titlecaseLetter]),
  (["lu", "uppercaseletter"], [.uppercaseLetter]),
  (["ll", "lowercaseletter"], [.lowercaseLetter]),
  (["lt", "titlecaseletter"], [.titlecaseLetter]),
  (["lm", "modifierletter"], [.modifierLetter]),
  (["lo", "otherletter"], [.otherLetter]),
  (["m", "mark", "combiningmark"], marks),
  (["mn", "nonspacingmark"], [.nonspacingMark]),
  (["mc", "spacingmark"], [.spacingMark]),
  (["me", "enclosingmark"], [.enclosingMark]),
  (["n", "number"], [.decimalNumber, .letterNumber, .otherNumber]),
  (["nd", "decimalnumber", "digit"], [.decimalNumber]),
  (["nl", "letternumber"], [.letterNumber]),
  (["no", "othernumber"], [.otherNumber]),
  (["p", "punctuation", "punct"], [.connectorPunctuation, .dashPunctuation, .openPunctuation,
    .closePunctuation, .initialPunctuation, .finalPunctuation, .otherPunctuation]),
  (["pc", "connectorpunctuation"], [.connectorPunctuation]),
  (["pd", "dashpunctuation"], [.dashPunctuation]),
  (["ps", "openpunctuation"], [.openPunctuation]),
  (["pe", "closepunctuation"], [.closePunctuation]),
  (["pi", "initialpunctuation"], [.initialPunctuation]),
  (["pf", "finalpunctuation"], [.finalPunctuation]),
  (["po", "otherpunctuation"], [.otherPunctuation]),
  (["s", "symbol"], [.mathSymbol, .currencySymbol, .modifierSymbol, .otherSymbol]),
  (["sm", "mathsymbol"], [.mathSymbol]),
  (["sc", "currencysymbol"], [.currencySymbol]),
  (["sk", "modifiersymbol"], [.modifierSymbol]),
  (["so", "othersymbol"], [.otherSymbol]),
  (["z", "separator"], [.spaceSeparator, .lineSeparator, .paragraphSeparator]),
  (["zs", "spaceseparator"], [.spaceSeparator]),
  (["zl", "lineseparator"], [.lineSeparator]),
  (["zp", "paragraphseparator"], [.paragraphSeparator]),
  (["c", "other"], [.control, .format, .unassigned, .privateUse]),
  (["cc", "control", "cntrl"], [.control]),
  (["cf", "format"], [.format]),
  (["cn", "unassigned"], [.unassigned]),
  (["co", "privateuse"], [.privateUse])]

/-- The set of a general category. -/
def category? (name : String) : Option CharSet :=
  match name with
  | "any" => some full
  | "ascii" => some [(0, 127)]
  | "assigned" => some (complement (ofCategories [.unassigned]))
  | _ => (findNamed categoryNames name).map ofCategories

/-! ### Scripts, ages and properties -/

/-- The set of a script. -/
def script? (name : String) : Option CharSet := findNamed Script.table name

/-- The characters that a script uses. -/
def scriptUse? (name : String) : Option CharSet :=
  (Script.table.find? fun (names, _) => names.contains name).map fun (names, own) =>
    let used := Script.shared.filter fun (scripts, _) => names.any scripts.contains
    union (diff own (Script.shared.flatMap (·.2))) (used.flatMap (·.2))

/-- The characters of a version and those before it. -/
def age? (version : String) : Option CharSet :=
  let isVersion (entry : String × Ranges) : Bool :=
    entry.1 = version || "v" ++ String.ofList (entry.1.toList.filter (· != '.')) = version
  if Age.table.any isVersion then
    let older := Age.table.takeWhile fun entry => !isVersion entry
    some (canonical ((older ++ (Age.table.filter isVersion)).flatMap (·.2)))
  else none

/-- The set of a property. -/
def property? (name : String) : Option CharSet :=
  findNamed derived name <|> findNamed Trait.table name

/-! ### Parts of boundaries -/

/-- The syllables of Hangul that have no final consonant. -/
def openSyllables : CharSet :=
  (List.range 399).map fun i => (0xAC00 + 28 * i, 0xAC00 + 28 * i)

/-- The marks and signs that are written before a number and belong to it. -/
def numberSigns : CharSet := diff (Trait.find "prependedconcatenationmark") (single 0x70F)

/-- The classes of characters that decide where a grapheme ends. -/
def graphemeParts : List (List String × CharSet) := [
  (["cr"], single 0x0D),
  (["lf"], single 0x0A),
  (["zwj"], single 0x200D),
  (["cn", "control"],
    diff (union (ofCategories [.lineSeparator, .paragraphSeparator, .control, .format])
        (inter (Trait.find "defaultignorablecodepoint") (ofCategories [.unassigned])))
      (union graphemeExtend (union (Trait.find "prependedconcatenationmark")
        [(0x0A, 0x0A), (0x0D, 0x0D), (0x200D, 0x200D)]))),
  (["ex", "extend"], union graphemeExtend (Trait.find "emojimodifier")),
  (["pp", "prepend"], union (Trait.find "prependedconcatenationmark")
    (.read ["D4E 111C2-111C3 113D1 1193F 11941 11A3A 11A84-11A89 11D46 11F02"])),
  (["ri", "regionalindicator"], Trait.find "regionalindicator"),
  (["sm", "spacingmark"], union [(0xE33, 0xE33), (0xEB3, 0xEB3)]
    (diff (ofCategories [.spacingMark]) (union graphemeExtend
      (.read ["102B-102C 1038 1062-1064 1067-106D 1083 1087-108C 108F 109A-109C 1A61 1A63-1A64",
        "AA7B AA7D 11720-11721"])))),
  (["l"], .read ["1100-115F A960-A97C"]),
  (["v"], .read ["1160-11A7 D7B0-D7C6 16D63 16D67-16D6A"]),
  (["t"], .read ["11A8-11FF D7CB-D7FB"]),
  (["lv"], openSyllables),
  (["lvt"], diff [(0xAC00, 0xD7A3)] openSyllables)]

/-- The marks that extend a word or sentence. -/
def wordExtend : CharSet := union graphemeExtend (ofCategories [.spacingMark])

/-- The characters of Katakana and the signs that are used with them. -/
def katakanaParts : CharSet :=
  union (.read ["3031-3035 309B-309C 30A0 30FC FF70"]) ((script? "kana").getD [])

def hebrewLetters : CharSet := inter ((script? "hebr").getD []) (ofCategories [.otherLetter])

/-- The scripts in which words are not told apart by their letters. -/
def unspacedScripts : CharSet :=
  (["hira", "thai", "laoo", "mymr", "khmr", "tale", "talu", "lana", "tavt", "ahom"].filterMap
    script?).flatten

/-- The letters of words. -/
def wordLetters : CharSet :=
  diff (union alphabetic
      (.read ["2C2-2C5 2D2-2D7 2DE-2DF 2E5-2EB 2ED 2EF-2FF 55A-55C 55E 58A 5F3 70F A708-A716",
        "A720-A721 A789-A78A AB5B"]))
    (Trait.find "ideographic" ++ katakanaParts ++ hebrewLetters ++ wordExtend ++
      Trait.find "emojimodifier" ++ unspacedScripts)

/-- The classes of characters that decide where a word ends. -/
def wordParts : List (List String × CharSet) := [
  (["cr"], single 0x0D),
  (["lf"], single 0x0A),
  (["nl", "newline"], .read ["B-C 85 2028-2029"]),
  (["zwj"], single 0x200D),
  (["extend"], union wordExtend (Trait.find "emojimodifier")),
  (["fo", "format"], diff (ofCategories [.format])
    (wordExtend ++ numberSigns ++ [(0x70F, 0x70F), (0x200B, 0x200D)])),
  (["ka", "katakana"], katakanaParts),
  (["hl", "hebrewletter"], hebrewLetters),
  (["le", "aletter"], wordLetters),
  (["mb", "midnumlet"], .read ["2E 2018-2019 2024 FE52 FF07 FF0E"]),
  (["ml", "midletter"], .read ["3A B7 387 55F 5F4 2027 FE13 FE55 FF1A"]),
  (["mn", "midnum"],
    .read ["2C 3B 37E 589 60C-60D 66C 7F8 2044 FE10 FE14 FE50 FE54 FF0C FF1B"]),
  (["nu", "numeric"], union (union digits numberSigns) (single 0x66B)),
  (["ex", "extendnumlet"], .read ["5F 202F 203F-2040 2054 FE33-FE34 FE4D-FE4F FF3F"]),
  (["ri", "regionalindicator"], Trait.find "regionalindicator"),
  (["sq", "singlequote"], single 0x27),
  (["dq", "doublequote"], single 0x22),
  (["wsegspace"], .read ["20 1680 2000-2006 2008-200A 205F 3000"])]

/-- The letters of Georgian that have both cases but do not tell where a sentence starts. -/
def georgianLower : CharSet := [(0x10D0, 0x10FA), (0x10FD, 0x10FF)]

def georgianUpper : CharSet := [(0x1C90, 0x1CBA), (0x1CBD, 0x1CBF)]

def sentenceLower : CharSet := diff lowercase (graphemeExtend ++ georgianLower)

def sentenceUpper : CharSet :=
  diff (union uppercase (ofCategories [.titlecaseLetter])) georgianUpper

/-- The classes of characters that decide where a sentence ends. -/
def sentenceParts : List (List String × CharSet) := [
  (["cr"], single 0x0D),
  (["lf"], single 0x0A),
  (["se", "sep"], .read ["85 2028-2029"]),
  (["ex", "extend"], union wordExtend (single 0x200D)),
  (["fo", "format"], diff (ofCategories [.format])
    (graphemeExtend ++ numberSigns ++ [(0x200C, 0x200D)])),
  (["sp"], diff blanks [(0x0A, 0x0A), (0x0D, 0x0D), (0x85, 0x85), (0x2028, 0x2029)]),
  (["lo", "lower"], sentenceLower),
  (["up", "upper"], sentenceUpper),
  (["le", "oletter"],
    diff (union alphabetic (single 0x5F3)) (sentenceLower ++ sentenceUpper ++ wordExtend)),
  (["nu", "numeric"], union (union digits numberSigns) [(0x66B, 0x66C)]),
  (["at", "aterm"], .read ["2E 2024 FE52 FF0E"]),
  (["st", "sterm"], diff (Trait.find "sentenceterminal") (.read ["2E 2024 FE52 FF0E"])),
  (["sc", "scontinue"],
    .read ["2C-2D 3A-3B 37E 55D 60C-60D 7F8 1802 1808 2013-2014 3001 FE10-FE11 FE13-FE14",
      "FE31-FE32 FE50-FE51 FE54-FE55 FE58 FE63 FF0C-FF0D FF1A-FF1B FF64"]),
  (["cl", "close"],
    diff (ofCategories [.openPunctuation, .closePunctuation, .initialPunctuation,
        .finalPunctuation] ++ Trait.find "quotationmark" ++
        .read ["275B-2760 2E00-2E01 2E06-2E08 2E0B 1F676-1F678"])
      [(0xFF02, 0xFF02), (0xFF07, 0xFF07)])]

/-! ### Names -/

/-- The set that a name stands for by itself. -/
def named? (name : List Char) : Option CharSet :=
  let name := normalize name
  property? name <|> category? name <|> script? name

/-- The set of a value of a property. -/
def valued? (property value : List Char) : Option CharSet :=
  let value := normalize value
  match normalize property with
  | "generalcategory" | "gc" => category? value
  | "script" | "sc" => script? value
  | "scriptextensions" | "scx" => scriptUse? value
  | "age" => age? value
  | "graphemeclusterbreak" | "gcb" => findNamed graphemeParts value
  | "wordbreak" | "wb" => findNamed wordParts value
  | "sentencebreak" | "sb" => findNamed sentenceParts value
  | _ => none

/-- The set of a class of ASCII. -/
def ascii? (name : String) : Option CharSet :=
  match name with
  | "alnum" => some [(0x30, 0x39), (0x41, 0x5A), (0x61, 0x7A)]
  | "alpha" => some [(0x41, 0x5A), (0x61, 0x7A)]
  | "ascii" => some [(0x00, 0x7F)]
  | "blank" => some [(0x09, 0x09), (0x20, 0x20)]
  | "cntrl" => some [(0x00, 0x1F), (0x7F, 0x7F)]
  | "digit" => some [(0x30, 0x39)]
  | "graph" => some [(0x21, 0x7E)]
  | "lower" => some [(0x61, 0x7A)]
  | "print" => some [(0x20, 0x7E)]
  | "punct" => some [(0x21, 0x2F), (0x3A, 0x40), (0x5B, 0x60), (0x7B, 0x7E)]
  | "space" => some [(0x09, 0x0D), (0x20, 0x20)]
  | "upper" => some [(0x41, 0x5A)]
  | "word" => some asciiWordChars
  | "xdigit" => some [(0x30, 0x39), (0x41, 0x46), (0x61, 0x66)]
  | _ => none

end Formwork.CharSet
