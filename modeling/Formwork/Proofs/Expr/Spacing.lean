import Mathlib.Data.List.TakeWhile
import Formwork.Proofs.Expr.Moved

/-!
# Blanks between tokens

Where a token ends depends on the characters behind it, of which up to two are looked at. A blank never lets
a token go on, so a token is read as before if blanks come in anywhere behind it (`Token.Reads`), and the
token before it still says how the next one is read. So a text with more blanks between its tokens has the
same tokens (`Token.Scans.spaced`), and the parser does not look at where they stand.
-/

namespace Formwork

namespace Text

/-- The code points of white space. -/
def blankCodes : List Nat := [9, 10, 11, 12, 13, 0x20, 0x85, 0xA0, 0x1680, 0x2000, 0x2001, 0x2002, 0x2003,
  0x2004, 0x2005, 0x2006, 0x2007, 0x2008, 0x2009, 0x200A, 0x2028, 0x2029, 0x202F, 0x205F, 0x3000]

theorem mem_blankCodes {c : Char} (h : isBlank c = true) : c.toNat ∈ blankCodes := by
  simp only [isBlank, Bool.or_eq_true, Bool.and_eq_true, decide_eq_true_eq] at h
  simp only [blankCodes, List.mem_cons, List.not_mem_nil, or_false]
  omega

theorem of_isBlank {p : Char → Bool} (hp : ∀ code ∈ blankCodes, p (Char.ofNat code) = false) {c : Char}
    (h : isBlank c = true) : p c = false :=
  c.ofNat_toNat ▸ hp _ (mem_blankCodes h)

end Text

namespace Token

variable {α : Type} {previous : Option Token} {token : Token} {c : Char} {rest left own u v t : List Char}
  {width position : Nat}

/-- Nothing goes on with the start of a text: it is a blank or the end. -/
def Parted (text : List Char) : Prop := ∀ c ∈ text.head?, Text.isBlank c = true

/-- A value is read in a text by its own part, also if a blank comes in anywhere behind that part. -/
def Reads (read : List Char → α) (value : α) (own left : List Char) : Prop :=
  ∀ u v t, left = u ++ v → Parted t → read (own ++ (u ++ t)) = value

/-! ### Characters that go on -/

theorem any_head?_parted {p : Char → Bool} (hp : ∀ code ∈ Text.blankCodes, p (Char.ofNat code) = false)
    (h : (u ++ v).head?.any p = false) (ht : Parted t) : (u ++ t).head?.any p = false := by
  cases u with
  | cons first u => exact h
  | nil =>
    cases t with
    | nil => rfl
    | cons first t => exact Text.of_isBlank hp (ht first rfl)

theorem head?_parted {goesOn : Char} (hblank : ∀ code ∈ Text.blankCodes, Char.ofNat code ≠ goesOn)
    (h : (u ++ v).head? ≠ some goesOn) (ht : Parted t) : (u ++ t).head? ≠ some goesOn := by
  have hany : ∀ text : List Char, text.head?.any (· == goesOn) = false ↔ text.head? ≠ some goesOn := by
    intro text
    cases text <;> simp
  exact (hany _).1 (any_head?_parted (fun code hcode => by simpa using hblank code hcode) ((hany _).2 h) ht)

theorem takeWhile_eq {p : Char → Bool} (hown : ∀ c ∈ own, p c = true) (hleft : left.head?.any p = false) :
    (own ++ left).takeWhile p = own := by
  rw [List.takeWhile_append_of_pos hown]
  cases left with
  | nil => simp
  | cons first left =>
    have hfirst : p first = false := hleft
    simp [hfirst]

theorem reads_takeWhile {p : Char → Bool} (hp : ∀ code ∈ Text.blankCodes, p (Char.ofNat code) = false)
    (text : List Char) :
    Reads (List.takeWhile p) (text.takeWhile p) (text.takeWhile p) (text.dropWhile p) := by
  intro u v t hleft ht
  have hown : ∀ c ∈ text.takeWhile p, p c = true := fun c hc => List.mem_takeWhile_imp hc
  have hhead : (text.dropWhile p).head?.any p = false := by
    cases hdrop : text.dropWhile p with
    | nil => rfl
    | cons first rest =>
      have := List.head?_dropWhile_not p text
      rw [hdrop] at this
      simpa using this
  exact takeWhile_eq hown (any_head?_parted hp (hleft ▸ hhead) ht)

/-! ### Numbers -/

theorem numeral_digit (h : c.isDigit = true) (dotted : Bool) :
    numeral dotted (c :: rest) = c :: numeral dotted rest := by
  have hdot : c ≠ '.' := by rintro rfl; exact absurd h (by decide)
  rw [numeral.eq_def]
  split
  · rename_i heq
    exact absurd (List.cons.inj heq).1 hdot
  · rename_i heq
    obtain ⟨rfl, rfl⟩ := List.cons.inj heq
    rw [if_pos h]
  · rename_i heq
    cases heq

theorem numeral_dot {d : Char} (h : d.isDigit = true) :
    numeral false ('.' :: d :: rest) = '.' :: d :: numeral true rest := by
  rw [numeral, h]
  rfl

/-- Where a number ends there is no digit, and no dot with a digit behind it unless it has had its dot. -/
theorem numeral_eq_nil {dotted : Bool} {text : List Char} : numeral dotted text = [] ↔
    text.head?.any Char.isDigit = false ∧
      ∀ rest, text = '.' :: rest → dotted = false → rest.head?.any Char.isDigit = false := by
  fun_cases numeral dotted text with
  | case1 d rest hgoes => simp_all
  | case2 d rest hgoes => simp_all
  | case3 c rest hdot hdigit => simp [hdigit]
  | case4 c rest hdot hdigit =>
    have hdigit : c.isDigit = false := Bool.eq_false_iff.2 hdigit
    refine iff_of_true rfl ⟨hdigit, fun tail htail _ => ?_⟩
    obtain ⟨rfl, rfl⟩ := List.cons.inj htail
    cases rest with
    | nil => rfl
    | cons d rest => exact absurd rfl (hdot d rest rfl)
  | case5 => simp

theorem reads_numeral_nil {dotted : Bool} {text : List Char} (h : numeral dotted text = []) :
    Reads (numeral dotted) [] [] text := by
  rintro u v t rfl ht
  show numeral dotted (u ++ t) = []
  obtain ⟨hdigit, hdot⟩ := numeral_eq_nil.1 h
  refine numeral_eq_nil.2 ⟨any_head?_parted (by decide) hdigit ht, fun rest hrest hfirst => ?_⟩
  cases u with
  | nil =>
    have hblank := ht '.' (by rw [show t = '.' :: rest from hrest]; rfl)
    exact absurd hblank (by decide)
  | cons first u =>
    obtain ⟨rfl, rfl⟩ := List.cons.inj hrest
    exact any_head?_parted (by decide) (hdot _ rfl hfirst) ht

theorem reads_numeral (dotted : Bool) (text : List Char) : ∃ left, text = numeral dotted text ++ left ∧
    Reads (numeral dotted) (numeral dotted text) (numeral dotted text) left := by
  fun_induction numeral dotted text with
  | case1 dotted d rest hgoes ih =>
    obtain ⟨left, hsplit, hreads⟩ := ih
    obtain ⟨hfirst, hdigit⟩ := Bool.and_eq_true_iff.1 hgoes
    obtain rfl : dotted = false := by simpa using hfirst
    refine ⟨left, by rw [List.cons_append, List.cons_append, ← hsplit], fun u v t hleft ht => ?_⟩
    rw [List.cons_append, List.cons_append, numeral_dot hdigit, hreads u v t hleft ht]
  | case2 dotted d rest hends => exact ⟨_, rfl, reads_numeral_nil (by rw [numeral, if_neg hends])⟩
  | case3 dotted c rest hdot hdigit ih =>
    obtain ⟨left, hsplit, hreads⟩ := ih
    refine ⟨left, by rw [List.cons_append, ← hsplit], fun u v t hleft ht => ?_⟩
    rw [List.cons_append, numeral_digit hdigit, hreads u v t hleft ht]
  | case4 dotted c rest hdot hends =>
    exact ⟨_, rfl, reads_numeral_nil (by rw [numeral, if_neg hends]; exact hdot)⟩
  | case5 dotted => exact ⟨[], rfl, reads_numeral_nil rfl⟩

/-! ### Texts and symbols -/

theorem readString_plain {quote : Char} (h : c ≠ '\\') : readString quote (c :: rest) =
    if c = quote then some ("", 2)
    else (readString quote rest).map fun (text, width) => (String.singleton c ++ text, width + 1) :=
  readString.eq_4 quote c rest (fun hescape _ => h hescape) (fun _ _ hescape _ => h hescape)

theorem reads_string {quote : Char} {rest : List Char} {text : String}
    (h : readString quote rest = some (text, width)) : ∃ own left, rest = own ++ left ∧
      width = own.length + 1 ∧ Reads (readString quote) (some (text, width)) own left := by
  have hplain : ∀ {c : Char} {rest : List Char}, (c = '\\' → rest = [] → False) →
      (∀ next tail, c = '\\' → rest = next :: tail → False) → c ≠ '\\' := by
    intro c rest hlast hescape hc
    cases rest with
    | nil => exact hlast hc rfl
    | cons next tail => exact hescape next tail hc rfl
  fun_induction readString quote rest generalizing text width with
  | case1 => cases h
  | case2 => cases h
  | case3 escaped rest meant =>
    rename_i ih
    obtain ⟨⟨tail, read⟩, hread, hvalue⟩ := Option.map_eq_some_iff.1 h
    cases hvalue
    obtain ⟨own, left, rfl, rfl, hreads⟩ := ih hread
    refine ⟨_ :: _ :: own, left, rfl, rfl, fun u v t hleft ht => ?_⟩
    rw [List.cons_append, List.cons_append, readString, hreads u v t hleft ht]
    rfl
  | case4 rest hlast hescape =>
    cases h
    refine ⟨[quote], rest, rfl, rfl, fun u v t hleft ht => ?_⟩
    rw [List.cons_append, readString_plain (hplain hlast hescape), if_pos rfl]
  | case5 c rest hlast hescape hquote ih =>
    obtain ⟨⟨tail, read⟩, hread, hvalue⟩ := Option.map_eq_some_iff.1 h
    cases hvalue
    have hc := hplain hlast hescape
    obtain ⟨own, left, rfl, rfl, hreads⟩ := ih hread
    refine ⟨c :: own, left, rfl, rfl, fun u v t hleft ht => ?_⟩
    rw [List.cons_append, readString_plain hc, if_neg hquote, hreads u v t hleft ht]
    rfl

theorem symbol?_question (h : rest.head? ≠ some '?') : symbol? ('?' :: rest) = some (.question, 1) := by
  cases rest with
  | nil => rfl
  | cons first rest =>
    have hfirst : first ≠ '?' := by simpa using h
    simp [symbol?, hfirst]

/-- A symbol that is a part of a longer one is read where the character that is missing does not follow. -/
theorem symbol?_short (h : rest.head? ≠ some '=') :
    symbol? ('!' :: rest) = some (.bang, 1) ∧ symbol? ('!' :: '=' :: rest) = some (.notEq, 2) ∧
      symbol? ('=' :: '=' :: rest) = some (.eqEq, 2) ∧ symbol? ('<' :: rest) = some (.lt, 1) ∧
      symbol? ('>' :: rest) = some (.gt, 1) := by
  cases rest with
  | nil => exact ⟨rfl, rfl, rfl, rfl, rfl⟩
  | cons first rest =>
    have hfirst : first ≠ '=' := by simpa using h
    simp [symbol?, hfirst]

theorem reads_short {goesOn : Char} (hblank : ∀ code ∈ Text.blankCodes, Char.ofNat code ≠ goesOn)
    (hread : ∀ {text}, text.head? ≠ some goesOn → symbol? (c :: (own ++ text)) = some (token, own.length + 1))
    (hleft : ∀ tail, left = goesOn :: tail → False) :
    Reads (fun rest => symbol? (c :: rest)) (some (token, own.length + 1)) own left := by
  rintro u v t rfl ht
  have hends : (u ++ v).head? ≠ some goesOn := by
    intro hhead
    obtain ⟨tail, hsplit⟩ := List.head?_eq_some_iff.1 hhead
    exact hleft tail hsplit
  exact hread (head?_parted hblank hends ht)

theorem reads_symbol (h : symbol? (c :: rest) = some (token, width)) : ∃ own left, rest = own ++ left ∧
    width = own.length + 1 ∧ Reads (fun rest => symbol? (c :: rest)) (some (token, width)) own left := by
  unfold symbol? at h
  split at h
  -- the symbols that are not a part of a longer one
  case h_1 | h_2 | h_3 | h_4 | h_5 | h_6 | h_7 | h_8 | h_9 | h_10 | h_11 =>
    rename_i heq
    cases heq; cases h
    exact ⟨[], rest, rfl, rfl, fun _ _ _ _ _ => rfl⟩
  case h_12 | h_19 | h_21 | h_23 | h_24 =>
    rename_i left heq
    cases heq; cases h
    exact ⟨[_], left, rfl, rfl, fun _ _ _ _ _ => rfl⟩
  case h_14 | h_17 =>
    rename_i left heq
    cases heq; cases h
    exact ⟨['=', '='], left, rfl, rfl, fun _ _ _ _ _ => rfl⟩
  case h_13 =>
    rename_i hleft heq
    cases heq; cases h
    exact ⟨[], rest, rfl, rfl, reads_short (by decide) symbol?_question hleft⟩
  case h_15 =>
    rename_i left hleft heq
    cases heq; cases h
    exact ⟨['='], left, rfl, rfl, reads_short (by decide) (fun h => (symbol?_short h).2.1) hleft⟩
  case h_16 =>
    rename_i hleft heq
    cases heq; cases h
    exact ⟨[], rest, rfl, rfl, reads_short (by decide) (fun h => (symbol?_short h).1) hleft⟩
  case h_18 =>
    rename_i left hleft heq
    cases heq; cases h
    exact ⟨['='], left, rfl, rfl, reads_short (by decide) (fun h => (symbol?_short h).2.2.1) hleft⟩
  case h_20 =>
    rename_i hleft heq
    cases heq; cases h
    exact ⟨[], rest, rfl, rfl, reads_short (by decide) (fun h => (symbol?_short h).2.2.2.1) hleft⟩
  case h_22 =>
    rename_i hleft heq
    cases heq; cases h
    exact ⟨[], rest, rfl, rfl, reads_short (by decide) (fun h => (symbol?_short h).2.2.2.2) hleft⟩
  case h_25 => cases h

/-! ### One token -/

/-- The number that a text starts with. -/
def firstNumber (text : List Char) : Except ParseFault (Token × Nat) :=
  .ok (.number ((Decimal.readMagnitude? (numeral false text)).getD 0.0), (numeral false text).length - 1)

theorem next_dot : next previous '.' rest =
    if previous.any endsSegment || !rest.head?.any Char.isDigit then .ok (.dot, 0)
    else firstNumber ('.' :: rest) := by
  have hfollows : (rest.head?.map Char.isDigit).getD false = rest.head?.any Char.isDigit := by
    cases rest <;> rfl
  rw [next, hfollows]
  rfl

theorem next_quote (hquote : c = '\'' ∨ c = '"') : next previous c rest =
    match readString c rest with
    | some (text, width) => .ok (.str text, width - 1)
    | none => .error .unterminatedString := by
  rcases hquote with rfl | rfl <;> rfl

theorem next_digit (hdigit : c.isDigit = true) : next previous c rest =
    if previous == some .dot then
      .ok (.ident (String.ofList (c :: rest.takeWhile Char.isDigit)), (rest.takeWhile Char.isDigit).length)
    else firstNumber (c :: rest) := by
  have hdot : c ≠ '.' := by rintro rfl; exact absurd hdigit (by decide)
  have hsingle : c ≠ '\'' := by rintro rfl; exact absurd hdigit (by decide)
  have hdouble : c ≠ '"' := by rintro rfl; exact absurd hdigit (by decide)
  simp only [next, hdot, hsingle, hdouble, hdigit, decide_false, Bool.false_and, Bool.false_eq_true, if_false,
    Bool.or_self, Bool.true_and, Bool.or_false, if_true]
  rfl

/-- A character that is no dot, quote or digit starts a name or a symbol. -/
theorem next_other (hdot : c ≠ '.') (hquote : ¬ (c = '\'' ∨ c = '"')) (hdigit : c.isDigit = false) :
    next previous c rest =
      if startsIdent c then
        .ok (.ident (String.ofList (c :: rest.takeWhile continuesIdent)),
          (rest.takeWhile continuesIdent).length)
      else
        match symbol? (c :: rest) with
        | some (token, width) => .ok (token, width - 1)
        | none =>
          if c = '=' then .error (if rest.head? = some '>' then .arrowFunction else .assignment)
          else if c = '{' || c = '}' then .error .objectLiteral
          else .error (.unexpectedCharacter c) := by
  obtain ⟨hsingle, hdouble⟩ := not_or.1 hquote
  generalize hresult : next previous c rest = result
  simp only [next, hdot, hsingle, hdouble, hdigit, decide_false, Bool.false_and, Bool.false_eq_true, if_false,
    Bool.or_self] at hresult
  exact hresult.symm

theorem reads_firstNumber (hown : numeral false (c :: rest) = c :: own)
    (h : firstNumber (c :: rest) = .ok (token, width)) : width = own.length ∧ ∃ left, rest = own ++ left ∧
      Reads (fun rest => firstNumber (c :: rest)) (.ok (token, width)) own left := by
  obtain ⟨left, hsplit, hreads⟩ := reads_numeral false (c :: rest)
  rw [hown] at hsplit hreads
  cases h
  refine ⟨by rw [hown]; rfl, left, (List.cons.inj hsplit).2, fun u v t hleft ht => ?_⟩
  have hsame : numeral false (c :: (own ++ (u ++ t))) = c :: own := hreads u v t hleft ht
  show firstNumber _ = firstNumber _
  rw [firstNumber, firstNumber, hsame, hown]

/-- A token is read as before if blanks come in anywhere behind it. -/
theorem next_reads (h : next previous c rest = .ok (token, width)) : ∃ own left, rest = own ++ left ∧
    width = own.length ∧ Reads (next previous c) (.ok (token, width)) own left := by
  by_cases hdot : c = '.'
  · subst hdot
    rw [next_dot] at h
    split at h
    · rename_i hmember
      cases h
      refine ⟨[], rest, rfl, rfl, fun u v t hleft ht => ?_⟩
      rw [List.nil_append, next_dot, if_pos]
      rcases Bool.or_eq_true_iff.1 hmember with hsegment | hdigit
      · rw [hsegment, Bool.true_or]
      · have hends : (u ++ v).head?.any Char.isDigit = false := by simpa [← hleft] using hdigit
        rw [any_head?_parted (by decide) hends ht, Bool.not_false, Bool.or_true]
    · rename_i hnumber
      simp only [Bool.or_eq_true, Bool.not_eq_true', not_or, Bool.not_eq_true, Bool.not_eq_false] at hnumber
      obtain ⟨hsegment, hdigit⟩ := hnumber
      cases rest with
      | nil => cases hdigit
      | cons d rest =>
        obtain ⟨hwidth, left, hsplit, hreads⟩ := reads_firstNumber (numeral_dot hdigit) h
        refine ⟨_, left, hsplit, hwidth, fun u v t hleft ht => ?_⟩
        have hfollows : (d :: numeral true rest ++ (u ++ t)).head?.any Char.isDigit = true := hdigit
        rw [next_dot, hsegment, hfollows]
        exact hreads u v t hleft ht
  by_cases hquote : c = '\'' ∨ c = '"'
  · rw [next_quote hquote] at h
    split at h
    · rename_i text read hread
      cases h
      obtain ⟨own, left, hsplit, rfl, hreads⟩ := reads_string hread
      refine ⟨own, left, hsplit, rfl, fun u v t hleft ht => ?_⟩
      rw [next_quote hquote, hreads u v t hleft ht]
    · cases h
  by_cases hdigit : c.isDigit = true
  · rw [next_digit hdigit] at h
    split at h
    · rename_i hprevious
      cases h
      refine ⟨_, _, List.takeWhile_append_dropWhile.symm, rfl, fun u v t hleft ht => ?_⟩
      rw [next_digit hdigit, if_pos hprevious, reads_takeWhile (by decide) rest u v t hleft ht]
    · rename_i hprevious
      obtain ⟨hwidth, left, hsplit, hreads⟩ := reads_firstNumber (numeral_digit hdigit false) h
      refine ⟨_, left, hsplit, hwidth, fun u v t hleft ht => ?_⟩
      rw [next_digit hdigit, if_neg hprevious]
      exact hreads u v t hleft ht
  have hdigit : c.isDigit = false := Bool.eq_false_iff.2 hdigit
  have hnext := fun rest => @next_other previous c rest hdot hquote hdigit
  rw [hnext] at h
  split at h
  · rename_i hstarts
    cases h
    refine ⟨_, _, List.takeWhile_append_dropWhile.symm, rfl, fun u v t hleft ht => ?_⟩
    have hgoes : ∀ code ∈ Text.blankCodes, continuesIdent (Char.ofNat code) = false := by decide +kernel
    rw [hnext, if_pos hstarts, reads_takeWhile hgoes rest u v t hleft ht]
  rename_i hstarts
  split at h
  · rename_i read hsymbol
    cases h
    obtain ⟨own, left, hsplit, rfl, hreads⟩ := reads_symbol hsymbol
    refine ⟨own, left, hsplit, rfl, fun u v t hleft ht => ?_⟩
    have hsame : symbol? (c :: (own ++ (u ++ t))) = _ := hreads u v t hleft ht
    rw [hnext, if_neg hstarts, hsame]
  · split at h
    · cases h
    · split at h <;> cases h

/-! ### All tokens -/

/-- The text at an offset, after a token, consists of blanks and of these tokens. -/
inductive Scans : Option Token → Nat → List Char → List Placed → Prop
  | done {previous : Option Token} {position : Nat} : Scans previous position [] []
  | blank {previous : Option Token} {position : Nat} {c : Char} {rest : List Char} {placed : List Placed} :
    Text.isBlank c = true → Scans previous (position + c.utf8Size) rest placed →
    Scans previous position (c :: rest) placed
  | token {previous : Option Token} {position : Nat} {c : Char} {own left : List Char} {token : Token}
      {placed : List Placed} :
    Text.isBlank c = false → next previous c (own ++ left) = .ok (token, own.length) →
    Scans (some token) (position + c.utf8Size + byteCount own) left placed →
    Scans previous position (c :: (own ++ left)) (⟨token, position⟩ :: placed)

variable {placed : List Placed} {text blanks : List Char} {offset : Nat}

theorem byteCount_append (a b : List Char) : byteCount (a ++ b) = byteCount a + byteCount b := by
  induction a with
  | nil => exact (Nat.zero_add _).symm
  | cons c a ih =>
    show c.utf8Size + byteCount (a ++ b) = c.utf8Size + byteCount a + byteCount b
    rw [ih, Nat.add_assoc]

theorem Scans.of_scanFrom (h : scanFrom previous position text = .ok placed) :
    Scans previous position text placed := by
  fun_induction scanFrom previous position text generalizing placed with
  | case1 => cases h; exact .done
  | case2 previous position c rest hblank ih => exact .blank hblank (ih h)
  | case3 => cases h
  | case4 => cases h
  | case5 previous position c rest hblank token width hnext after tokens hscan =>
    rename_i ih
    cases h
    obtain ⟨own, left, rfl, rfl, -⟩ := next_reads hnext
    have hscans := ih hscan
    rw [List.drop_left' rfl] at hscans
    have hafter : after = position + c.utf8Size + byteCount own := by simp [after]
    exact .token (Bool.eq_false_iff.2 hblank) hnext (hafter ▸ hscans)

theorem Scans.scanFrom_eq (h : Scans previous position text placed) :
    scanFrom previous position text = .ok placed := by
  induction h with
  | done => rw [scanFrom]
  | blank hblank _ ih => rw [scanFrom, if_pos hblank, ih]
  | token hblank hnext _ ih =>
    rw [scanFrom, hblank, hnext]
    simp only [List.take_left', List.drop_left', ih, Bool.false_eq_true, if_false]

/-- The same text, further behind. -/
theorem Scans.later (h : Scans previous position text placed) (bytes : Nat) :
    Scans previous (position + bytes) text (placed.map (·.moved (· + bytes))) := by
  induction h with
  | done => exact .done
  | blank hblank _ ih => exact .blank hblank (Nat.add_right_comm .. ▸ ih)
  | @token previous position c own left token placed hblank hnext _ ih =>
    have hafter : position + bytes + c.utf8Size + byteCount own =
        position + c.utf8Size + byteCount own + bytes := by omega
    exact .token hblank hnext (hafter ▸ ih)

theorem Scans.position_le (h : Scans previous position text placed) :
    ∀ found ∈ placed, position ≤ found.position := by
  induction h with
  | done => exact nofun
  | blank _ _ ih => exact fun found hfound => Nat.le_trans (Nat.le_add_right _ _) (ih found hfound)
  | token _ _ _ ih =>
    refine List.forall_mem_cons.2 ⟨Nat.le_refl _, fun found hfound => ?_⟩
    have := ih found hfound
    omega

theorem Scans.behind (hblanks : ∀ c ∈ blanks, Text.isBlank c = true)
    (h : Scans previous (position + byteCount blanks) text placed) :
    Scans previous position (blanks ++ text) placed := by
  induction blanks generalizing position with
  | nil => exact h
  | cons c blanks ih =>
    obtain ⟨hc, hblanks⟩ := List.forall_mem_cons.1 hblanks
    have hafter : position + byteCount (c :: blanks) = position + c.utf8Size + byteCount blanks :=
      (Nat.add_assoc ..).symm
    exact .blank hc (ih hblanks (hafter ▸ h))

theorem Reads.spaced {read : List Char → α} {value : α} (h : Reads read value own (u ++ v))
    (hblanks : ∀ c ∈ blanks, Text.isBlank c = true) : read (own ++ (u ++ (blanks ++ v))) = value := by
  cases blanks with
  | nil => simpa using h (u ++ v) [] [] (List.append_nil _).symm nofun
  | cons c blanks =>
    refine h u v _ rfl fun first hfirst => ?_
    cases hfirst
    exact hblanks c List.mem_cons_self

/-- Where an offset comes to lie if some bytes are put in at an offset. -/
def spread (offset bytes position : Nat) : Nat := if position < offset then position else position + bytes

theorem moved_spread (h : ∀ found ∈ placed, offset ≤ found.position) (bytes : Nat) :
    placed.map (·.moved (spread offset bytes)) = placed.map (·.moved (· + bytes)) := by
  refine List.map_congr_left fun found hfound => ?_
  have hbehind : ¬ found.position < offset := Nat.not_lt.2 (h found hfound)
  rw [Placed.moved, Placed.moved, spread, if_neg hbehind]

/-- Blanks that are put in where a token starts or at the end change no token, and move those behind them. -/
theorem Scans.spaced (h : Scans previous position text placed)
    (hblanks : ∀ c ∈ blanks, Text.isBlank c = true)
    (hoffset : offset ∈ placed.map (·.position) ∨ offset = position + byteCount text) :
    ∃ u v, text = u ++ v ∧ position + byteCount u = offset ∧
      Scans previous position (u ++ (blanks ++ v))
        (placed.map (·.moved (spread offset (byteCount blanks)))) := by
  induction h with
  | @done previous position =>
    have hspaced : Scans previous position (blanks ++ []) [] := .behind hblanks .done
    refine ⟨[], [], rfl, ?_, hspaced⟩
    rcases hoffset with hoffset | hoffset
    · cases hoffset
    · exact hoffset.symm
  | @blank _ position c rest placed hblank _ ih =>
    have hend : position + byteCount (c :: rest) = position + c.utf8Size + byteCount rest :=
      (Nat.add_assoc ..).symm
    obtain ⟨u, v, rfl, hu, hscans⟩ := ih (hend ▸ hoffset)
    exact ⟨c :: u, v, rfl, by rw [← hu]; exact (Nat.add_assoc ..).symm, .blank hblank hscans⟩
  | @token previous position c own left token placed hblank hnext hscans ih =>
    by_cases hstart : offset = position
    · subst hstart
      have hall := Scans.token hblank hnext hscans
      have hspaced := Scans.behind hblanks (hall.later (byteCount blanks))
      rw [← moved_spread hall.position_le] at hspaced
      exact ⟨[], _, rfl, rfl, hspaced⟩
    · have hend : position + byteCount (c :: (own ++ left)) =
          position + c.utf8Size + byteCount own + byteCount left := by
        show position + (c.utf8Size + byteCount (own ++ left)) = _
        rw [byteCount_append]
        omega
      have hbehind : offset ∈ placed.map (·.position) ∨
          offset = position + c.utf8Size + byteCount own + byteCount left := by
        rcases hoffset with hoffset | hoffset
        · exact .inl ((List.mem_cons.1 hoffset).resolve_left hstart)
        · exact .inr (hoffset.trans hend)
      obtain ⟨u, v, rfl, hu, hspaced⟩ := ih hbehind
      have hbefore : position < offset := by
        have := c.utf8Size_pos
        omega
      have hfirst : Placed.moved (spread offset (byteCount blanks)) ⟨token, position⟩ = ⟨token, position⟩ := by
        rw [Placed.moved, spread, if_pos hbefore]
      obtain ⟨own', left', hsplit, hwidth, hreads⟩ := next_reads hnext
      obtain ⟨rfl, rfl⟩ := List.append_inj hsplit hwidth
      refine ⟨c :: (own ++ u), v, by simp, ?_, ?_⟩
      · show position + (c.utf8Size + byteCount (own ++ u)) = offset
        rw [byteCount_append]
        omega
      · rw [List.map_cons, hfirst, List.cons_append, List.append_assoc]
        exact .token hblank (hreads.spaced hblanks) hspaced

end Token

/-! ### Expressions -/

namespace Expr

theorem byteCount_eq (text : List Char) : Token.byteCount text = (String.ofList text).utf8ByteSize := by
  induction text with
  | nil => rfl
  | cons c text ih =>
    rw [String.ofList_cons, String.utf8ByteSize_append, String.utf8ByteSize_singleton, ← ih]
    rfl

/-- Blanks that are put in where a token of a text starts, or at its end, change none of its tokens but where
they stand, and so neither its tree nor its fault. -/
theorem spacing_changes_nothing {source blanks : String} {placed : List Placed} {offset : Nat}
    (hscan : Token.scan source = .ok placed)
    (hoffset : offset ∈ placed.map (·.position) ∨ offset = source.utf8ByteSize)
    (hblanks : ∀ c ∈ blanks.toList, Text.isBlank c = true) :
    ∃ before after, source = before ++ after ∧ before.utf8ByteSize = offset ∧
      let spread := Token.spread offset blanks.utf8ByteSize
      Token.scan (before ++ blanks ++ after) = .ok (placed.map (·.moved spread)) ∧
        parse (before ++ blanks ++ after) = (parse source).mapError (·.moved spread) := by
  have hoffset : offset ∈ placed.map (·.position) ∨ offset = 0 + Token.byteCount source.toList := by
    rwa [byteCount_eq, String.ofList_toList, Nat.zero_add]
  obtain ⟨u, v, hsource, hu, hscans⟩ := (Token.Scans.of_scanFrom hscan).spaced hblanks hoffset
  rw [Nat.zero_add, byteCount_eq] at hu
  rw [byteCount_eq, String.ofList_toList] at hscans
  have hjoined : source = String.ofList u ++ String.ofList v := by
    rw [← String.ofList_append, ← hsource, String.ofList_toList]
  refine ⟨String.ofList u, String.ofList v, hjoined, hu, ?_⟩
  have hspaced : Token.scan (String.ofList u ++ blanks ++ String.ofList v) =
      .ok (placed.map (·.moved (Token.spread offset blanks.utf8ByteSize))) := by
    rw [Token.scan]
    simpa using hscans.scanFrom_eq
  have hstop : (String.ofList u ++ blanks ++ String.ofList v).utf8ByteSize =
      Token.spread offset blanks.utf8ByteSize source.utf8ByteSize := by
    have hbehind : ¬ source.utf8ByteSize < offset := by
      rw [hjoined, String.utf8ByteSize_append, hu]
      omega
    rw [Token.spread, if_neg hbehind, hjoined]
    simp only [String.utf8ByteSize_append]
    omega
  refine ⟨hspaced, ?_⟩
  rw [parse, hspaced, parse, hscan]
  simp only [hstop, ofTokens_moved]

open Grammar in
/-- A digit behind a dot is a field name, also with a no-break space and a new line between them. -/
theorem spacing_changes_nothing_index : ∃ before after, "data.items.0" = before ++ after ∧
    before.utf8ByteSize = 11 ∧
    Token.scan (before ++ "\u00A0\n" ++ after) = .ok
      [⟨.ident "data", 0⟩, ⟨.dot, 4⟩, ⟨.ident "items", 5⟩, ⟨.dot, 10⟩, ⟨.ident "0", 14⟩] ∧
    parse (before ++ "\u00A0\n" ++ after) = .ok (.path .data [.field "items", .field "0"]) := by
  have hscan : (Token.scan "data.items.0").toOption = some
      [⟨.ident "data", 0⟩, ⟨.dot, 4⟩, ⟨.ident "items", 5⟩, ⟨.dot, 10⟩, ⟨.ident "0", 11⟩] := by
    decide +kernel
  cases h : Token.scan "data.items.0" with
  | error error => rw [h] at hscan; cases hscan
  | ok placed =>
    rw [h] at hscan; cases hscan
    have hderives : Derives .expression [.ident "data", .dot, .ident "items", .dot, .ident "0"]
        (.path .data [.field "items", .field "0"]) :=
      .unconditional ((((Derives.whole (.root .data)).field "items").field "0").bare.single.loosen (by decide))
    have hparse : parse "data.items.0" = .ok (.path .data [.field "items", .field "0"]) := by
      rcases (parses_exactly h).2 _ hderives with hparse | ⟨hlong, -⟩
      · exact hparse
      · exact absurd hlong (by decide)
    obtain ⟨before, after, hsource, hbefore, hspaced, htree⟩ :=
      @spacing_changes_nothing _ "\u00A0\n" _ 11 h (.inl (by decide)) (List.all_eq_true.1 (by decide))
    rw [hparse] at htree
    exact ⟨before, after, hsource, hbefore, hspaced, htree⟩

end Expr

end Formwork
