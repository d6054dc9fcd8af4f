import Mathlib.Data.List.DropRight
import Formwork.Json.Document
import Formwork.Json.Printer

/-!
# What is written is read back

Reading the text of a value gives the value (`Json.Faithful`) if its numbers are integers of 64 bits and its
lists are not nested too deep (`Json.faithful_of_readable`). A float is left out: the digits that are written
for it lie near it, but its reading rounds twice.

A number has no end of its own, so what is read is the text of a value before a text that can follow a value
(`Document.Follows`). In a list the values after the first stand behind a comma each, and they and the
closing bracket are what follows the first.
-/

namespace Formwork

/-! ### Numbers -/

/-- The number is an integer that takes at most 64 bits, with its sign if it has one. -/
def Number.IsInt64 : Number → Prop
  | .int n => -(Nat.pow 2 63 : Int) ≤ n ∧ n < Nat.pow 2 64
  | .float .. => False

namespace Document

/-- The text can stand behind a value. -/
def Follows (text : List Char) : Prop := ∀ c ∈ text.head?, c = ',' ∨ c = ']' ∨ c = '\x7d'

variable {n fuel depth : Nat} {rest text : List Char}

theorem le_ofDigitChars (digits : List Char) (n : Nat) : n ≤ Nat.ofDigitChars 10 digits n := by
  rw [Nat.ofDigitChars_eq_ofDigitChars_zero]
  exact Nat.le_add_right_of_le (Nat.le_mul_of_pos_left n (Nat.pow_pos (by decide)))

theorem takeSignificand_eq {digits : List Char} (h : Nat.ofDigitChars 10 digits n < significandLimit) :
    takeSignificand n digits = (Nat.ofDigitChars 10 digits n, digits.length) := by
  induction digits generalizing n with
  | nil => rw [takeSignificand, Nat.ofDigitChars_nil, List.length_nil]
  | cons c digits ih =>
    rw [Nat.ofDigitChars_cons] at h
    have hnext : 10 * n + (c.toNat - '0'.toNat) < significandLimit := Nat.lt_of_le_of_lt (le_ofDigitChars digits _) h
    rw [takeSignificand, if_pos hnext, ih h, Nat.ofDigitChars_cons, List.length_cons]

theorem head_toDigits (h : 0 < n) : ∃ c digits, Nat.toDigits 10 n = c :: digits ∧ c ≠ '0' := by
  induction n using Nat.strongRecOn with
  | ind n ih =>
    rw [Nat.toDigits_eq_if (by decide)]
    split
    · exact ⟨_, _, rfl, by rw [ne_eq, Nat.digitChar_eq_zero]; omega⟩
    · obtain ⟨c, digits, heq, hc⟩ := ih (n / 10) (by omega) (by omega)
      exact ⟨c, _, by rw [heq, List.cons_append], hc⟩

theorem takeDigits_toDigits (hrest : Follows rest) :
    Decimal.takeDigits (Nat.toDigits 10 n ++ rest) = (Nat.toDigits 10 n, rest) := by
  have hdigits : ∀ c ∈ Nat.toDigits 10 n, c.isDigit = true := fun c hc =>
    Nat.isDigit_of_mem_toDigits (by decide) (by decide) hc
  have hstop : rest.takeWhile Char.isDigit = [] ∧ rest.dropWhile Char.isDigit = rest := by
    cases rest with
    | nil => exact ⟨rfl, rfl⟩
    | cons c rest =>
      have hc : c.isDigit = false := by obtain rfl | rfl | rfl := hrest c rfl <;> rfl
      simp [hc]
  rw [Decimal.takeDigits, List.takeWhile_append_of_pos hdigits, List.dropWhile_append_of_pos hdigits, hstop.1,
    hstop.2, List.append_nil]

theorem readFraction_of_follows (negative : Bool) (digits : List Char) (hrest : Follows rest) :
    readFraction negative digits rest = (integerNode negative digits, .ok rest) := by
  rw [readFraction]
  cases rest with
  | nil => rfl
  | cons c rest => obtain rfl | rfl | rfl := hrest c rfl <;> rfl

theorem readNumber_toDigits (negative : Bool) (hrest : Follows rest) :
    readNumber negative (Nat.toDigits 10 n ++ rest) = (integerNode negative (Nat.toDigits 10 n), .ok rest) := by
  rw [readNumber, takeDigits_toDigits hrest]
  obtain rfl | hpos := Nat.eq_zero_or_pos n
  · rw [Nat.toDigits_zero]
    exact readFraction_of_follows negative _ hrest
  · obtain ⟨c, digits, heq, hc⟩ := head_toDigits hpos
    simp only [heq]
    split
    · rename_i hnil; cases hnil
    · rename_i hzero; cases hzero; exact absurd rfl hc
    · exact readFraction_of_follows negative _ hrest

theorem integerNode_toDigits (hn : n < Nat.pow 2 64) : integerNode false (Nat.toDigits 10 n) = .num (.int n) := by
  have hlimit : Nat.ofDigitChars 10 (Nat.toDigits 10 n) 0 < significandLimit := by
    rwa [Nat.ofDigitChars_ten_toDigits]
  rw [integerNode, takeSignificand_eq hlimit, Nat.ofDigitChars_ten_toDigits]
  simp

theorem integerNode_neg_toDigits (hpos : 0 < n) (hn : n ≤ Nat.pow 2 63) :
    integerNode true (Nat.toDigits 10 n) = .num (.int (-n)) := by
  have hlimit : Nat.ofDigitChars 10 (Nat.toDigits 10 n) 0 < significandLimit := by
    rw [Nat.ofDigitChars_ten_toDigits]
    exact Nat.lt_of_le_of_lt hn (by decide)
  have hbound : ¬Nat.pow 2 63 < n := Nat.not_lt.2 hn
  rw [integerNode, takeSignificand_eq hlimit, Nat.ofDigitChars_ten_toDigits]
  simp [hbound, Nat.ne_of_gt hpos]

/-! ### Values that are not lists -/

theorem skipBlanks_cons {c : Char} (hc : c ∉ [' ', '\n', '\t', '\r']) : skipBlanks (c :: text) = c :: text := by
  simp only [List.mem_cons, List.not_mem_nil, or_false, not_or] at hc
  simp [skipBlanks, hc]

theorem readValue_digit {c : Char} (hc : c.isDigit = true) :
    readValue (fuel + 1) depth (c :: text) = readNumber false (c :: text) := by
  have hblank : c ∉ [' ', '\n', '\t', '\r'] := by
    rintro hmem
    simp only [List.mem_cons, List.not_mem_nil, or_false] at hmem
    obtain rfl | rfl | rfl | rfl := hmem <;> cases hc
  rw [readValue, skipBlanks_cons hblank]
  dsimp only
  split
  case h_8 => exact if_pos hc
  all_goals cases hc

theorem readValue_number {number : Number} (h : number.IsInt64) (hrest : Follows rest) :
    readValue (fuel + 1) depth (number.toText.toList ++ rest) = (.num number, .ok rest) := by
  cases number with
  | float => cases h
  | int n =>
    obtain ⟨hlow, hhigh⟩ := h
    rw [Number.toText, Int.toString_eq_repr, Int.repr_eq_if]
    split
    · rename_i hn
      obtain ⟨c, digits, heq⟩ := List.exists_cons_of_ne_nil (Nat.toDigits_ne_nil (n := n.toNat) (b := 10))
      have hc : c.isDigit = true :=
        Nat.isDigit_of_mem_toDigits (b := 10) (n := n.toNat) (by decide) (by decide) (heq ▸ List.mem_cons_self)
      rw [Nat.toList_repr, heq, List.cons_append, readValue_digit hc, ← List.cons_append, ← heq,
        readNumber_toDigits false hrest, integerNode_toDigits (by omega), Int.toNat_of_nonneg hn]
    · have hread : readValue (fuel + 1) depth ('-' :: (Nat.toDigits 10 (-n).toNat ++ rest)) =
          readNumber true (Nat.toDigits 10 (-n).toNat ++ rest) := by
        rw [readValue, skipBlanks_cons (by decide)]; rfl
      rw [String.toList_append, Nat.toList_repr]
      show readValue (fuel + 1) depth ('-' :: (Nat.toDigits 10 (-n).toNat ++ rest)) = _
      rw [hread, readNumber_toDigits true hrest, integerNode_neg_toDigits (by omega) (by omega),
        Int.toNat_of_nonneg (by omega), Int.neg_neg]

/-! ### Strings -/

theorem hexValue_hexDigit : ∀ k < 16, hexValue? (Json.hexDigit k) = some k := by decide

theorem readUnit_control {code : Nat} (h : code < 0x20) :
    readUnit ('0' :: '0' :: Json.hexDigit (code / 16) :: Json.hexDigit (code % 16) :: text) = (code, .ok text) := by
  have hdigits : (List.take 4 ('0' :: '0' :: Json.hexDigit (code / 16) :: Json.hexDigit (code % 16) :: text)).map
      hexValue? = [some 0, some 0, some (code / 16), some (code % 16)] := by
    rw [← hexValue_hexDigit (code / 16) (by omega), ← hexValue_hexDigit (code % 16) (by omega)]
    rfl
  rw [readUnit, hdigits]
  exact Prod.ext (by dsimp only; omega) rfl

theorem joinUnits_control {code : Nat} (h : code < 0x20) (units : List (Char ⊕ Nat)) :
    joinUnits? (.inr code :: units) = (joinUnits? units).map (Char.ofNat code :: ·) := by
  have hleading : isLeading code = false := by simp [isLeading]; omega
  have htrailing : isTrailing code = false := by simp [isTrailing]; omega
  cases units with
  | nil => simp [joinUnits?, hleading, htrailing]
  | cons unit units => cases unit <;> simp [joinUnits?, hleading, htrailing]

theorem readUnits_plain {c : Char} (hquote : c ≠ '"') (hbackslash : c ≠ '\\') (hcontrol : ¬c.toNat < 0x20) :
    readUnits (fuel + 1) (c :: text) = (.inl c :: (readUnits fuel text).1, (readUnits fuel text).2) := by
  rw [readUnits.eq_def]
  simp only [hquote, hbackslash, hcontrol, if_false]

theorem readUnits_code {code : Nat} (h : readUnit text = (code, .ok rest)) :
    readUnits (fuel + 1) ('\\' :: 'u' :: text) =
      (.inr code :: (readUnits fuel rest).1, (readUnits fuel rest).2) := by
  rw [readUnits.eq_def]
  simp only [Char.reduceEq, if_false, if_true, h]

/-- The escape of a character is read as one unit, which stands for the character. -/
theorem readUnits_escapeChar (c : Char) : ∃ unit,
    (∀ fuel text, readUnits (fuel + 1) (Json.escapeChar c ++ text) =
      (unit :: (readUnits fuel text).1, (readUnits fuel text).2)) ∧
    ∀ units, joinUnits? (unit :: units) = (joinUnits? units).map (c :: ·) := by
  rw [Json.escapeChar.eq_def]
  split
  case h_8 _ hquote hbackslash _ _ _ _ _ =>
    split
    · rename_i hcontrol
      refine ⟨.inr c.toNat, fun fuel text => readUnits_code (readUnit_control hcontrol), fun units => ?_⟩
      rw [joinUnits_control hcontrol, Char.ofNat_toNat]
    · rename_i hcontrol
      exact ⟨.inl c, fun fuel text => readUnits_plain hquote hbackslash hcontrol, fun units => by rw [joinUnits?]⟩
  all_goals exact ⟨.inl _, fun fuel text => rfl, fun units => by rw [joinUnits?]⟩

theorem readUnits_escaped {chars : List Char} (rest : List Char) (hfuel : chars.length < fuel) :
    ∃ units, readUnits fuel (chars.flatMap Json.escapeChar ++ '"' :: rest) = (units, .ok rest) ∧
      joinUnits? units = some chars := by
  induction chars generalizing fuel with
  | nil =>
    obtain ⟨fuel, rfl⟩ := Nat.exists_eq_add_one_of_ne_zero (Nat.ne_of_gt hfuel)
    exact ⟨[], rfl, rfl⟩
  | cons c chars ih =>
    obtain ⟨fuel, rfl⟩ := Nat.exists_eq_add_one_of_ne_zero (Nat.ne_zero_of_lt hfuel)
    obtain ⟨unit, hread, hjoin⟩ := readUnits_escapeChar c
    obtain ⟨units, hreads, hjoins⟩ := ih (Nat.lt_of_succ_lt_succ hfuel)
    refine ⟨unit :: units, ?_, by rw [hjoin, hjoins]; rfl⟩
    rw [List.flatMap_cons, List.append_assoc, hread, hreads]

theorem length_le_escaped (chars : List Char) : chars.length ≤ (chars.flatMap Json.escapeChar).length := by
  have hpos : ∀ c, 0 < (Json.escapeChar c).length := by
    intro c
    rw [Json.escapeChar.eq_def]
    split
    case h_8 => split <;> exact Nat.succ_pos _
    all_goals exact Nat.succ_pos _
  induction chars with
  | nil => exact Nat.zero_le _
  | cons c chars ih =>
    have hc := hpos c
    rw [List.flatMap_cons, List.length_append, List.length_cons]
    omega

theorem toList_quoted (value : String) :
    (Json.quoted value).toList = '"' :: (value.toList.flatMap Json.escapeChar ++ ['"']) := by
  simp [Json.quoted]

theorem readString_quoted (value : String) :
    readString (value.toList.flatMap Json.escapeChar ++ '"' :: rest) = (some value, .ok rest) := by
  have hfuel : value.toList.length < (value.toList.flatMap Json.escapeChar ++ '"' :: rest).length + 1 := by
    have := length_le_escaped value.toList
    rw [List.length_append]
    omega
  obtain ⟨units, hread, hjoin⟩ := readUnits_escaped rest hfuel
  rw [readString, hread]
  show ((joinUnits? units).map String.ofList, Except.ok rest) = _
  rw [hjoin, Option.map_some, String.ofList_toList]

end Document

namespace Json

mutual

/-- At a depth of nesting, the lists of the value do not reach below the deepest level, and its numbers are
integers that take 64 bits. -/
def Readable (depth : Nat) : Json → Prop
  | .num number => number.IsInt64
  | .arr items => depth < Document.maxDepth ∧ ReadableItems (depth + 1) items
  | .obj fields => depth < Document.maxDepth ∧ ReadableFields (depth + 1) fields
  | _ => True

def ReadableItems (depth : Nat) : List Json → Prop
  | [] => True
  | item :: rest => Readable depth item ∧ ReadableItems depth rest

def ReadableFields (depth : Nat) : List (String × Json) → Prop
  | [] => True
  | (_, value) :: rest => Readable depth value ∧ ReadableFields depth rest

end

/-! ### Texts of lists -/

/-- The text of a field. -/
def fieldText (field : String × Json) : List Char := (quoted field.1).toList ++ ':' :: field.2.compact.toList

/-- The text of the items after the first. -/
def itemsTail (items : List Json) : List Char := items.flatMap fun item => ',' :: item.compact.toList

/-- The text of the fields after the first. -/
def fieldsTail (fields : Fields Json) : List Char := fields.flatMap fun field => ',' :: fieldText field

theorem toList_compactItems (item : Json) (items : List Json) :
    (compactItems (item :: items)).toList = item.compact.toList ++ itemsTail items := by
  induction items generalizing item with
  | nil => rw [compactItems, itemsTail, List.flatMap_nil, List.append_nil]
  | cons next items ih =>
    rw [compactItems, String.toList_append, String.toList_append, ih, itemsTail, itemsTail, List.flatMap_cons,
      List.append_assoc]
    · rfl
    · exact List.cons_ne_nil _ _

theorem toList_compactFields (field : String × Json) (fields : Fields Json) :
    (compactFields (field :: fields)).toList = fieldText field ++ fieldsTail fields := by
  induction fields generalizing field with
  | nil =>
    rw [compactFields, fieldsTail, List.flatMap_nil, List.append_nil, fieldText, String.toList_append,
      String.toList_append, List.append_assoc]
    rfl
  | cons next fields ih =>
    rw [compactFields, String.toList_append, String.toList_append, String.toList_append, String.toList_append, ih,
      fieldsTail, fieldsTail, List.flatMap_cons]
    · simp [fieldText]
    · exact List.cons_ne_nil _ _

end Json

namespace Document

open Json (fieldText itemsTail fieldsTail Readable ReadableItems ReadableFields)

/-! ### Values -/

theorem skipBlanks_idem : skipBlanks (skipBlanks text) = skipBlanks text := List.dropWhile_idempotent _ _

theorem readValue_skipBlanks : readValue fuel depth (skipBlanks text) = readValue fuel depth text := by
  cases fuel <;> simp only [readValue, skipBlanks_idem]

/-- What a value is read from does not end and closes no list. -/
theorem skipBlanks_of_readValue {item : Document} (h : readValue fuel depth text = (item, .ok rest)) :
    ∃ c after, skipBlanks text = c :: after ∧ c ≠ ']' ∧
      readValue fuel depth (c :: after) = (item, .ok rest) := by
  rw [← readValue_skipBlanks] at h
  cases hc : skipBlanks text with
  | nil =>
    rw [hc] at h
    cases fuel <;> rw [readValue] at h <;> cases h
  | cons c after =>
    rw [hc] at h
    refine ⟨c, after, rfl, ?_, h⟩
    rintro rfl
    cases fuel <;> rw [readValue] at h <;> cases h

theorem readItems_first {item : Document} (h : readValue fuel depth text = (item, .ok rest)) :
    readItems (fuel + 1) depth true text =
      (item :: (readItems fuel depth false rest).1, (readItems fuel depth false rest).2) := by
  obtain ⟨c, after, htext, hc, hread⟩ := skipBlanks_of_readValue h
  rw [readItems.eq_def]
  simp only [htext, Bool.true_or, if_true, hread]

theorem readItems_next {item : Document} (h : readValue fuel depth text = (item, .ok rest)) :
    readItems (fuel + 1) depth false (',' :: text) =
      (item :: (readItems fuel depth false rest).1, (readItems fuel depth false rest).2) := by
  rw [readItems.eq_def]
  simp only [skipBlanks_cons (show ',' ∉ _ by decide)]
  simp [h]

/-- A field, which stands behind a comma unless it is the first, takes two steps. -/
theorem readFields_field (first : Bool) {field : String × Json}
    (h : readValue fuel depth (field.2.compact.toList ++ text) = (.ofJson field.2, .ok rest)) :
    readFields (fuel + 2) depth first ((if first then [] else [',']) ++ (fieldText field ++ text)) =
      ((.ok field.1, .ofJson field.2) :: (readFields (fuel + 1) depth false rest).1,
        (readFields (fuel + 1) depth false rest).2) := by
  have hquoted : fieldText field ++ text = '"' :: (field.1.toList.flatMap Json.escapeChar ++
      '"' :: ':' :: (field.2.compact.toList ++ text)) := by
    simp [fieldText, toList_quoted]
  have hfield : readField (fuel + 1) depth (fieldText field ++ text) =
      ((.ok field.1, .ofJson field.2), .ok rest) := by
    rw [hquoted, readField]
    simp only [readString_quoted, skipBlanks_cons (show ':' ∉ _ by decide), h]
  rw [hquoted] at hfield ⊢
  rw [readFields.eq_def]
  cases first <;> simp [skipBlanks_cons, hfield]

theorem readItems_close (first : Bool) : readItems (fuel + 1) depth first (']' :: rest) = ([], .ok rest) := by
  rw [readItems.eq_def]
  rfl

theorem readFields_close (first : Bool) : readFields (fuel + 1) depth first ('\x7d' :: rest) = ([], .ok rest) := by
  rw [readFields.eq_def]
  rfl

theorem readValue_arr {items : List Document} (hdepth : depth < maxDepth)
    (h : readItems fuel (depth + 1) true text = (items, .ok rest)) :
    readValue (fuel + 1) depth ('[' :: text) = (.arr items none, .ok rest) := by
  rw [readValue.eq_def]
  simp [skipBlanks_cons, h, limitDepth, stop?, Nat.succ_le_of_lt hdepth]

theorem readValue_obj {fields : List (Except Fault String × Document)} (hdepth : depth < maxDepth)
    (h : readFields fuel (depth + 1) true text = (fields, .ok rest)) :
    readValue (fuel + 1) depth ('\x7b' :: text) = (.obj fields none, .ok rest) := by
  rw [readValue.eq_def]
  simp [skipBlanks_cons, h, limitDepth, stop?, Nat.succ_le_of_lt hdepth]

theorem readValue_quoted (value : String) :
    readValue (fuel + 1) depth ((Json.quoted value).toList ++ rest) = (.str value, .ok rest) := by
  have htext : (Json.quoted value).toList ++ rest = '"' :: (value.toList.flatMap Json.escapeChar ++ '"' :: rest) := by
    simp [toList_quoted]
  rw [htext, readValue.eq_def]
  simp [skipBlanks_cons, readString_quoted]

theorem readValue_word {value : Json} (h : value.isNull = true ∨ ∃ b, value = .bool b) :
    readValue (fuel + 1) depth (value.compact.toList ++ rest) = (.ofJson value, .ok rest) := by
  obtain h | ⟨b, rfl⟩ := h
  · cases value <;> cases h
    rw [readValue.eq_def]; rfl
  · cases b <;> rw [readValue.eq_def] <;> rfl

/-! ### Lists -/

theorem follows_separated {α : Type} (items : List α) (write : α → List Char) (h : Follows text) :
    Follows ((items.flatMap fun item => ',' :: write item) ++ text) := by
  cases items with
  | nil => exact h
  | cons item items => rintro c ⟨⟩; exact .inl rfl

theorem follows_itemsTail (items : List Json) : Follows (itemsTail items ++ ']' :: rest) :=
  follows_separated items _ (by rintro c ⟨⟩; exact .inr (.inl rfl))

theorem follows_fieldsTail (fields : Fields Json) : Follows (fieldsTail fields ++ '\x7d' :: rest) :=
  follows_separated fields _ (by rintro c ⟨⟩; exact .inr (.inr rfl))

theorem length_value_lt (field : String × Json) : field.2.compact.toList.length < (fieldText field).length := by
  simp [fieldText]; omega

-- The fuel pays two steps for a character. The comma and the brackets of a list pay for the steps that the
-- list takes besides those of its values.
mutual

/-- The text of a value is read as the value. -/
theorem readValue_compact {value : Json} (h : value.Readable depth) (hrest : Follows rest)
    (hfuel : 2 * value.compact.toList.length < fuel) :
    readValue fuel depth (value.compact.toList ++ rest) = (.ofJson value, .ok rest) := by
  obtain ⟨fuel, rfl⟩ := Nat.exists_eq_add_one_of_ne_zero (Nat.ne_zero_of_lt hfuel)
  cases value with
  | null => exact readValue_word (.inl rfl)
  | bool value => exact readValue_word (.inr ⟨value, rfl⟩)
  | num number => exact readValue_number h hrest
  | str value => exact readValue_quoted value
  | arr items =>
    have htext : (Json.arr items).compact.toList = '[' :: ((Json.compactItems items).toList ++ [']']) := by
      simp [Json.compact]
    rw [htext] at hfuel ⊢
    have hitems : readItems fuel (depth + 1) true ((Json.compactItems items).toList ++ ']' :: rest) =
        (ofItems items, .ok rest) :=
      readItems_compact h.2 (by simp at hfuel; omega)
    have hread := readValue_arr h.1 hitems
    rw [List.cons_append, List.append_assoc]
    exact hread
  | obj fields =>
    have htext : (Json.obj fields).compact.toList = '\x7b' :: ((Json.compactFields fields).toList ++ ['\x7d']) := by
      simp [Json.compact]
    rw [htext] at hfuel ⊢
    have hfields : readFields fuel (depth + 1) true ((Json.compactFields fields).toList ++ '\x7d' :: rest) =
        (ofFields fields, .ok rest) :=
      readFields_compact h.2 (by simp at hfuel; omega)
    have hread := readValue_obj h.1 hfields
    rw [List.cons_append, List.append_assoc]
    exact hread

theorem readItems_compact {items : List Json} (h : ReadableItems depth items)
    (hfuel : 2 * (Json.compactItems items).toList.length + 2 < fuel) :
    readItems fuel depth true ((Json.compactItems items).toList ++ ']' :: rest) = (ofItems items, .ok rest) := by
  obtain ⟨fuel, rfl⟩ := Nat.exists_eq_add_one_of_ne_zero (Nat.ne_zero_of_lt hfuel)
  cases items with
  | nil => exact readItems_close true
  | cons item items =>
    rw [Json.toList_compactItems, List.length_append] at hfuel
    rw [Json.toList_compactItems, List.append_assoc,
      readItems_first (readValue_compact h.1 (follows_itemsTail items) (by omega)),
      readItems_tail h.2 (by omega), ofItems]

theorem readItems_tail {items : List Json} (h : ReadableItems depth items)
    (hfuel : 2 * (itemsTail items).length + 1 < fuel) :
    readItems fuel depth false (itemsTail items ++ ']' :: rest) = (ofItems items, .ok rest) := by
  obtain ⟨fuel, rfl⟩ := Nat.exists_eq_add_one_of_ne_zero (Nat.ne_zero_of_lt hfuel)
  cases items with
  | nil => exact readItems_close false
  | cons item items =>
    have hlength : (itemsTail (item :: items)).length =
        item.compact.toList.length + 1 + (itemsTail items).length := by simp [itemsTail]; omega
    have htext : itemsTail (item :: items) ++ ']' :: rest =
        ',' :: (item.compact.toList ++ (itemsTail items ++ ']' :: rest)) := by simp [itemsTail]
    rw [hlength] at hfuel
    rw [htext, readItems_next (readValue_compact h.1 (follows_itemsTail items) (by omega)),
      readItems_tail h.2 (by omega), ofItems]

theorem readFields_compact {fields : Fields Json} (h : ReadableFields depth fields)
    (hfuel : 2 * (Json.compactFields fields).toList.length + 2 < fuel) :
    readFields fuel depth true ((Json.compactFields fields).toList ++ '\x7d' :: rest) =
      (ofFields fields, .ok rest) := by
  obtain ⟨fuel, rfl⟩ := Nat.exists_eq_add_of_le' (show 2 ≤ fuel by omega)
  cases fields with
  | nil => exact readFields_close true
  | cons field fields =>
    have hfield := length_value_lt field
    rw [Json.toList_compactFields, List.length_append] at hfuel
    have hvalue : readValue fuel depth (field.2.compact.toList ++ (fieldsTail fields ++ '\x7d' :: rest)) =
        (.ofJson field.2, .ok (fieldsTail fields ++ '\x7d' :: rest)) :=
      readValue_compact h.1 (follows_fieldsTail fields) (by omega)
    have hread := readFields_field true hvalue
    rw [if_pos rfl, List.nil_append, readFields_tail h.2 (by omega)] at hread
    rw [Json.toList_compactFields, List.append_assoc, ofFields]
    exact hread

theorem readFields_tail {fields : Fields Json} (h : ReadableFields depth fields)
    (hfuel : 2 * (fieldsTail fields).length + 1 < fuel) :
    readFields fuel depth false (fieldsTail fields ++ '\x7d' :: rest) = (ofFields fields, .ok rest) := by
  obtain ⟨fuel, rfl⟩ := Nat.exists_eq_add_of_le' (show 2 ≤ fuel by omega)
  cases fields with
  | nil => exact readFields_close false
  | cons field fields =>
    have hlength : (fieldsTail (field :: fields)).length =
        (fieldText field).length + 1 + (fieldsTail fields).length := by simp [fieldsTail]; omega
    have hfield := length_value_lt field
    rw [hlength] at hfuel
    have hvalue : readValue fuel depth (field.2.compact.toList ++ (fieldsTail fields ++ '\x7d' :: rest)) =
        (.ofJson field.2, .ok (fieldsTail fields ++ '\x7d' :: rest)) :=
      readValue_compact h.1 (follows_fieldsTail fields) (by omega)
    have hread := readFields_field false hvalue
    rw [if_neg Bool.false_ne_true, readFields_tail h.2 (by omega)] at hread
    have htext : fieldsTail (field :: fields) ++ '\x7d' :: rest =
        [','] ++ (fieldText field ++ (fieldsTail fields ++ '\x7d' :: rest)) := by simp [fieldsTail]
    rw [htext, ofFields]
    exact hread

end

end Document

/-- The text of a value is read as the document of the value. -/
def Json.Faithful (value : Json) : Prop := Document.read value.compact = (.ofJson value, none)

theorem Json.faithful_of_readable {value : Json} (h : value.Readable 0) : value.Faithful := by
  have hfollows : Document.Follows [] := by rintro c ⟨⟩
  have hread := Document.readValue_compact h hfollows (Nat.lt_succ_self (2 * value.compact.toList.length))
  rw [List.append_nil] at hread
  rw [Faithful, Document.read, hread]
  rfl

end Formwork
