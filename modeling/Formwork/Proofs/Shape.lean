import Mathlib
import Formwork.Payload
import Formwork.Proofs.Json.Distinct

/-!
# The shapes of answers that are sent

Every kind of item has the shapes in which its answers are sent (`Definition.Kind.Takes`), and an answer is
sent in one of them or as `null`. An amount of money is the exception: a text can write a float that is
infinite or no number at all, which JSON does not have (`Number.ofArithmetic?_eq_none_iff`), and then `null`
stands for the amount inside the shape and not for the whole (`Definition.Item.Unwritable`).
-/

namespace Formwork

/-! ### Floats that are no numbers -/

open Float.Model in
theorem UnpackedFloat.isFinite_unpack (bits : BitVec Format.binary64.numBits) :
    (UnpackedFloat.unpack .binary64 bits).isFinite = true ↔
      bits.toNat / Nat.pow 2 52 % Nat.pow 2 11 ≠ 2047 := by
  have hexponent : (@UnpackedFloat.unpackExponent .binary64 bits).toNat =
      bits.toNat / Nat.pow 2 52 % Nat.pow 2 11 := by
    simp [UnpackedFloat.unpackExponent, BitVec.extractLsb, BitVec.extractLsb', Nat.shiftRight_eq_div_pow]
  have hones : @UnpackedFloat.unpackExponent .binary64 bits = -1#_ ↔
      bits.toNat / Nat.pow 2 52 % Nat.pow 2 11 = 2047 := by
    rw [← hexponent, ← BitVec.toNat_inj]
    rfl
  rw [ne_eq, ← hones, UnpackedFloat.unpack]
  split
  · rename_i hinfinite
    split <;> exact iff_of_false Bool.false_ne_true (not_not_intro hinfinite)
  · rename_i hfinite
    split
    · split <;> exact iff_of_true rfl hfinite
    · exact iff_of_true rfl hfinite

theorem Binary64.parts?_eq_none_iff {x : Float} : parts? x = none ↔ x.isFinite = false := by
  have hbits : x.isFinite = true ↔ x.toBits.toNat / Nat.pow 2 52 % Nat.pow 2 11 ≠ 2047 :=
    UnpackedFloat.isFinite_unpack x.toBits.toBitVec
  rw [← Bool.not_eq_true, hbits, Decidable.not_not, parts?]
  split_ifs with hones
  · exact iff_of_true rfl hones
  · exact iff_of_false nofun hones
  · exact iff_of_false nofun hones

/-- Every finite float is a JSON number, and no other. -/
theorem Number.ofArithmetic?_eq_none_iff {x : Float} : ofArithmetic? x = none ↔ x.isFinite = false := by
  have hnumber : ofFloat? x = none ↔ x.isFinite = false := by
    rw [ofFloat?, ← Bool.not_eq_true]
    split_ifs with hfinite
    · exact iff_of_false nofun (not_not_intro hfinite)
    · exact iff_of_true rfl hfinite
  rw [ofArithmetic?]
  split
  · rename_i n hn
    have hfinite : x.isFinite ≠ false := fun h => by
      rw [Binary64.toInt?, Binary64.parts?_eq_none_iff.2 h] at hn
      cases hn
    split_ifs
    · exact iff_of_false nofun hfinite
    · exact hnumber
  · exact hnumber

theorem Json.ofArithmetic_cases (x : Float) :
    (∃ n, x.isFinite = true ∧ ofArithmetic x = .num n) ∨ (x.isFinite = false ∧ ofArithmetic x = .null) := by
  rw [ofArithmetic]
  cases hnumber : Number.ofArithmetic? x with
  | some n =>
    refine .inl ⟨n, ?_, rfl⟩
    rw [← Bool.not_eq_false, ← Number.ofArithmetic?_eq_none_iff, hnumber]
    exact nofun
  | none => exact .inr ⟨Number.ofArithmetic?_eq_none_iff.1 hnumber, rfl⟩

/-! ### Shapes -/

/-- A string, a number or a boolean. -/
inductive Json.Scalar : Json → Prop
  | str (text : String) : Scalar (.str text)
  | num (number : Number) : Scalar (.num number)
  | bool (flag : Bool) : Scalar (.bool flag)

namespace Definition

/-- The values in which answers to items of a kind are sent. -/
inductive Kind.Takes : Kind → Json → Prop
  | text {kind : Kind} (text : String) :
    kind ∈ [.text, .textarea, .email, .date, .select, .radio] → Takes kind (.str text)
  | number (number : Number) : Takes .number (.num number)
  | checkbox (flag : Bool) : Takes .checkbox (.bool flag)
  | list {kind : Kind} {items : List Json} :
    kind ∈ [.multiselect, .file] → (∀ item ∈ items, item.Scalar) → Takes kind (.arr items)
  | money (amount : Number) (currency : String) :
    Takes .money (.obj [("amount", .num amount), ("currency", .str currency)])
  | phone (countryCode phoneNumber : String) :
    Takes .phone (.obj [("countryCode", .str countryCode), ("phoneNumber", .str phoneNumber)])

namespace Item

variable {item : Item} {value sent : Json}

/-- The amount that an answer names: its field of that name, or itself if it has no fields. -/
def amount? : Json → Option Json
  | .obj fields => Fields.get? fields "amount"
  | value => some value

/-- The currency that an answer names, or else its item. -/
def currency? (item : Item) (value : Json) : Option String :=
  (value.field? "currency").bind Json.str? <|> item.property? "currency"

/-- An amount of money that is written as a text of a float which is infinite or no number at all. -/
structure Unwritable (item : Item) (value : Json) (currency : String) : Prop where
  money : item.kind = .money
  amount : ∃ text x, amount? value = some (.str text) ∧ Decimal.readFloat? (Text.trim text) = some x ∧
    x.isFinite = false
  currency : item.currency? value = some currency

theorem isScalar_iff : isScalar value = true ↔ value.Scalar := by
  constructor
  · intro h
    cases value <;> first | constructor | cases h
  · intro h
    cases h <;> rfl

theorem numberOf?_cases (h : numberOf? value = some sent) : (∃ n, sent = .num n) ∨
    (sent = .null ∧ ∃ text x, value = .str text ∧ Decimal.readFloat? (Text.trim text) = some x ∧
      x.isFinite = false) := by
  cases value with
  | num n => cases h; exact .inl ⟨n, rfl⟩
  | str text =>
    rw [numberOf?, Option.map_eq_some_iff] at h
    obtain ⟨x, hread, rfl⟩ := h
    rcases Json.ofArithmetic_cases x with ⟨n, -, hn⟩ | ⟨hfinite, hnull⟩
    · exact .inl ⟨n, hn⟩
    · exact .inr ⟨hnull, text, x, rfl, hread, hfinite⟩
  | _ => cases h

theorem flagOf?_eq_some (h : flagOf? value = some sent) : ∃ flag, sent = .bool flag := by
  cases value with
  | bool flag => cases h; exact ⟨flag, rfl⟩
  | str text =>
    rw [flagOf?] at h
    split at h
    · cases h; exact ⟨true, rfl⟩
    · cases h; exact ⟨false, rfl⟩
    · cases h
  | _ => cases h

theorem listOf?_eq_some (h : listOf? value = some sent) :
    ∃ items, sent = .arr items ∧ ∀ item ∈ items, item.Scalar := by
  have hsingle : (if isScalar value then some (Json.arr [value]) else none) = some sent →
      ∃ items, sent = .arr items ∧ ∀ item ∈ items, item.Scalar := fun h => by
    obtain ⟨hscalar, hsent⟩ := Option.ite_none_right_eq_some.1 h
    cases hsent
    exact ⟨[value], rfl, List.forall_mem_singleton.2 (isScalar_iff.1 hscalar)⟩
  cases value with
  | arr items =>
    obtain ⟨hscalar, hsent⟩ := Option.ite_none_right_eq_some.1 h
    cases hsent
    exact ⟨items, rfl, fun item hitem => isScalar_iff.1 (List.all_eq_true.1 hscalar item hitem)⟩
  | _ => exact hsingle h

theorem phoneOf?_eq_some (h : item.phoneOf? value = some sent) : ∃ countryCode phoneNumber,
    sent = .obj [("countryCode", .str countryCode), ("phoneNumber", .str phoneNumber)] := by
  cases value with
  | obj fields =>
    simp only [phoneOf?, Option.bind_eq_bind, Option.bind_eq_some_iff] at h
    obtain ⟨countryCode, -, phoneNumber, -, _, hpair, hsent⟩ := h
    cases hpair
    cases hsent
    exact ⟨countryCode, phoneNumber, rfl⟩
  | str text =>
    simp only [phoneOf?, Option.bind_eq_bind, Option.bind_eq_some_iff] at h
    obtain ⟨countryCode, -, _, hpair, hsent⟩ := h
    cases hpair
    cases hsent
    exact ⟨countryCode, text, rfl⟩
  | _ => cases h

theorem moneyOf?_eq_some_iff : item.moneyOf? value = some sent ↔ ∃ stated amount currency,
    amount? value = some stated ∧ numberOf? stated = some amount ∧ item.currency? value = some currency ∧
      sent = .obj [("amount", amount), ("currency", .str currency)] := by
  have hmoney : item.moneyOf? value = ((amount? value).bind numberOf?).bind fun amount =>
      (item.currency? value).bind fun currency =>
        some (.obj [("amount", amount), ("currency", .str currency)]) := by
    cases value with
    | obj fields => rfl
    | _ =>
      unfold moneyOf?
      rw [amount?, Option.bind_some]
      · rfl
      · exact nofun
  rw [hmoney]
  simp only [Option.bind_eq_some_iff, Option.some.injEq]
  constructor
  · rintro ⟨amount, ⟨stated, hstated, hamount⟩, currency, hcurrency, rfl⟩
    exact ⟨stated, amount, currency, hstated, hamount, hcurrency, rfl⟩
  · rintro ⟨stated, amount, currency, hstated, hamount, hcurrency, rfl⟩
    exact ⟨amount, ⟨stated, hstated, hamount⟩, currency, hcurrency, rfl⟩

/-- What an answer is made into is of the shape of its item, or the number that it writes is none. -/
theorem takes_of_shape? (h : item.shape? value = some sent) :
    item.kind.Takes sent ∨ sent = .null ∨ ∃ currency, item.Unwritable value currency := by
  have htext : item.kind ∈ [.text, .textarea, .email, .date, .select, .radio] →
      (textOf? value).map Json.str = some sent → item.kind.Takes sent := fun hkind h => by
    obtain ⟨text, -, rfl⟩ := Option.map_eq_some_iff.1 h
    exact .text text hkind
  have hlist : item.kind ∈ [.multiselect, .file] → listOf? value = some sent → item.kind.Takes sent :=
    fun hkind h => by
      obtain ⟨items, rfl, hitems⟩ := listOf?_eq_some h
      exact .list hkind hitems
  cases hkind : item.kind <;> simp only [shape?, hkind] at h
  case text | textarea | email | date | select | radio =>
    exact .inl (hkind ▸ htext (by rw [hkind]; decide) h)
  case multiselect | file => exact .inl (hkind ▸ hlist (by rw [hkind]; decide) h)
  case number =>
    rcases numberOf?_cases h with ⟨n, rfl⟩ | ⟨hnull, -⟩
    · exact .inl (.number n)
    · exact .inr (.inl hnull)
  case checkbox =>
    obtain ⟨flag, rfl⟩ := flagOf?_eq_some h
    exact .inl (.checkbox flag)
  case money =>
    obtain ⟨stated, amount, currency, hstated, hamount, hcurrency, rfl⟩ := moneyOf?_eq_some_iff.1 h
    rcases numberOf?_cases hamount with ⟨n, rfl⟩ | ⟨-, text, x, rfl, hread, hfinite⟩
    · exact .inl (.money n currency)
    · exact .inr (.inr ⟨currency, hkind, ⟨text, x, hstated, hread, hfinite⟩, hcurrency⟩)
  case phone =>
    obtain ⟨countryCode, phoneNumber, rfl⟩ := phoneOf?_eq_some h
    exact .inl (.phone countryCode phoneNumber)
  case heading | paragraph | action => cases h

theorem shape_of_unwritable {currency : String} (h : item.Unwritable value currency) :
    item.shape value = .obj [("amount", .null), ("currency", .str currency)] := by
  obtain ⟨text, x, hstated, hread, hfinite⟩ := h.amount
  have hnumber : numberOf? (.str text) = some .null := by
    rw [numberOf?, hread, Option.map_some]
    rcases Json.ofArithmetic_cases x with ⟨n, hfinite', -⟩ | ⟨-, hnull⟩
    · exact absurd hfinite' (hfinite ▸ Bool.false_ne_true)
    · rw [hnull]
  have hmoney := moneyOf?_eq_some_iff.2 ⟨_, _, currency, hstated, hnumber, h.currency, rfl⟩
  have hnull : value.isNull = false := by
    cases value with
    | null => cases hstated
    | _ => rfl
  rw [shape, hnull, shape?, h.money]
  simp only [hmoney]
  rfl

theorem distinct_of_takes {kind : Kind} (h : kind.Takes sent) : sent.Distinct := by
  cases h with
  | text | number | checkbox => trivial
  | list hkind hscalar =>
    refine Json.distinctItems_iff.2 fun item hitem => ?_
    cases hscalar item hitem <;> trivial
  | money | phone => exact ⟨by simp [Fields.names], trivial, trivial, trivial⟩

/-- Whatever the answer, no object in what is sent for it names a field twice. -/
theorem distinct_shape (item : Item) (value : Json) : (item.shape value).Distinct := by
  by_cases hunwritable : ∃ currency, item.Unwritable value currency
  · obtain ⟨currency, h⟩ := hunwritable
    rw [shape_of_unwritable h]
    exact ⟨by simp [Fields.names], trivial, trivial, trivial⟩
  · rw [shape]
    split_ifs
    · trivial
    cases hshape : item.shape? value with
    | none => trivial
    | some sent =>
      rcases takes_of_shape? hshape with htakes | rfl | h
      · exact distinct_of_takes htakes
      · trivial
      · exact absurd h hunwritable

/-- An answer is sent as `null` or in a shape that its item takes, but for an amount of money that is written
as a text of a float which is not finite: that one is sent with `null` for the amount. -/
theorem shape_takes (item : Item) (value : Json) :
    ((item.shape value = .null ∨ item.kind.Takes (item.shape value)) ↔
      ∀ currency, ¬ item.Unwritable value currency) ∧
    ∀ currency, item.Unwritable value currency →
      item.shape value = .obj [("amount", .null), ("currency", .str currency)] := by
  refine ⟨⟨fun hfits currency h => ?_, fun h => ?_⟩, fun currency h => shape_of_unwritable h⟩
  · rw [shape_of_unwritable h, h.money] at hfits
    rcases hfits with hnull | htakes
    · cases hnull
    · cases htakes
  · rw [shape]
    split_ifs
    · exact .inl rfl
    cases hshape : item.shape? value with
    | none => exact .inl rfl
    | some sent =>
      rcases takes_of_shape? hshape with htakes | hnull | ⟨currency, hunwritable⟩
      · exact .inr htakes
      · exact .inl hnull
      · exact absurd hunwritable (h currency)

/-- A fee in euros. -/
def fee : Item := { id := "fee", kind := .money, props := [("currency", .str "EUR")] }

theorem unwritable_fee : fee.Unwritable (.str "nan") "EUR" := by
  have hread : Decimal.readFloat? (Text.trim "nan") = some Binary64.nan := by
    rw [show Text.trim "nan" = "nan" by decide]
    rfl
  exact ⟨rfl, ⟨"nan", Binary64.nan, rfl, hread, rfl⟩, rfl⟩

theorem shape_takes_fee : fee.Unwritable (.str "nan") "EUR" ∧
    fee.shape (.str "nan") = .obj [("amount", .null), ("currency", .str "EUR")] :=
  ⟨unwritable_fee, (shape_takes fee (.str "nan")).2 "EUR" unwritable_fee⟩

theorem not_all_shapes_taken :
    ¬ ∀ (item : Item) (value : Json), item.shape value = .null ∨ item.kind.Takes (item.shape value) := by
  intro h
  have hfee := h fee (.str "nan")
  rw [shape_of_unwritable unwritable_fee] at hfee
  rcases hfee with hnull | htakes
  · cases hnull
  · cases htakes

end Item

end Definition

end Formwork
