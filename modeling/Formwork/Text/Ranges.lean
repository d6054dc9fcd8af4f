/-!
# Ranges of code points

Tables of character properties are written as texts of hexadecimal code points and ranges,
`41-5A AA`, with single blanks between them.
-/

namespace Formwork.Text

/-- The number that hexadecimal digits write. Other characters count as zero. -/
def readHex (digits : List Char) : Nat :=
  digits.foldl (fun n c =>
    let digit :=
      if c.isDigit then c.toNat - '0'.toNat
      else if 'A' ≤ c && c ≤ 'F' then c.toNat - 'A'.toNat + 10
      else if 'a' ≤ c && c ≤ 'f' then c.toNat - 'a'.toNat + 10
      else 0
    16 * n + digit) 0

/-- The pieces between the occurrences of a separator. -/
def splitAt (separator : Char) : List Char → List (List Char)
  | [] => [[]]
  | c :: rest =>
    if c = separator then [] :: splitAt separator rest
    else
      match splitAt separator rest with
      | [] => [[c]]
      | piece :: pieces => (c :: piece) :: pieces

/-- The entries in the lines of a table. -/
def tableEntries (table : List String) : List (List Char) :=
  table.flatMap fun line => splitAt ' ' line.toList

/-- A set of code points, as ranges with their ends. -/
abbrev Ranges := List (Nat × Nat)

namespace Ranges

/-- The range that one entry of a table writes. -/
def readOne (entry : List Char) : Nat × Nat :=
  match splitAt '-' entry with
  | [first, last] => (readHex first, readHex last)
  | _ => (readHex entry, readHex entry)

/-- The ranges that the lines of a table write. -/
def read (table : List String) : Ranges :=
  (tableEntries table).map readOne

/-- Whether a code point lies in one of the ranges. -/
def contains (ranges : Ranges) (c : Char) : Bool :=
  ranges.any fun (first, last) => first ≤ c.toNat && c.toNat ≤ last

/-! ### Sets in ascending order

The functions below give ranges in ascending order that neither overlap nor touch, so that a set has
one list of ranges. -/

/-- The range from `first` to `last` with the ranges that follow it in ascending order. -/
def joinFrom (first last : Nat) : Ranges → Ranges
  | [] => [(first, last)]
  | (low, high) :: rest =>
    if low ≤ last + 1 then joinFrom first (max last high) rest
    else (first, last) :: joinFrom low high rest

/-- The same set in ascending order. -/
def canonical (ranges : Ranges) : Ranges :=
  match ranges.mergeSort fun a b => a.1 ≤ b.1 with
  | [] => []
  | (first, last) :: rest => joinFrom first last rest

/-- One code point. -/
def single (code : Nat) : Ranges := [(code, code)]

/-- The code points of either set. -/
def union (a b : Ranges) : Ranges := canonical (a ++ b)

/-- The greatest code point. -/
def greatest : Nat := 0x10FFFF

/-- All code points. -/
def full : Ranges := [(0, greatest)]

/-- The code points from `start` on that lie between ranges in ascending order. -/
def gaps (start : Nat) : Ranges → Ranges
  | [] => if start ≤ greatest then [(start, greatest)] else []
  | (low, high) :: rest =>
    if start < low then (start, low - 1) :: gaps (high + 1) rest else gaps (high + 1) rest

/-- Whether a range holds characters: surrogates are none. -/
def hasChars (range : Nat × Nat) : Bool := range.1 < 0xD800 || 0xDFFF < range.2

/-- The characters outside a set. -/
def complement (ranges : Ranges) : Ranges := (gaps 0 (canonical ranges)).filter hasChars

/-- The characters of both sets. -/
def inter (a b : Ranges) : Ranges := complement (union (complement a) (complement b))

/-- The characters of the first set that are not in the second. -/
def diff (a b : Ranges) : Ranges := inter a (complement b)

/-- The characters of one set only. -/
def symmDiff (a b : Ranges) : Ranges := diff (union a b) (inter a b)

end Ranges

end Formwork.Text
