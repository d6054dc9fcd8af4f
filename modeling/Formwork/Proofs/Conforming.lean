import Formwork.Proofs.Json.Same
import Formwork.Proofs.Payload
import Formwork.Proofs.Shape

/-!
# What has its shape already is sent as it is

A value fits a kind if it has one of the shapes in which answers of the kind are sent, in whatever order
its fields stand (`Definition.Kind.Fits`). To such a value `Definition.Item.shape` does nothing but put
the fields in order, whatever the properties of the item say. So a payload of such values can be given
back as answers: the same is sent again (`Form.sends_again`).
-/

namespace Formwork

namespace Json

/-! ### The order of fields -/

/-- Two values that differ at most in the order in which the fields of the outermost object stand. -/
inductive Reordered : Json → Json → Prop
  | refl (value : Json) : Reordered value value
  | obj {fields others : Fields Json} : fields.Perm others → Reordered (.obj fields) (.obj others)

variable {value other stored : Json} {fields others : Fields Json}

theorem Reordered.of_obj (h : Reordered (.obj fields) value) :
    ∃ others, value = .obj others ∧ fields.Perm others := by
  cases h with
  | refl => exact ⟨fields, rfl, .refl _⟩
  | obj hperm => exact ⟨_, rfl, hperm⟩

theorem lookup_perm (h : fields.Perm others) (hnodup : (Fields.names fields).Nodup) (name : String) :
    fields.lookup name = others.lookup name := by
  have hnodup' : (Fields.names others).Nodup := (h.map _).nodup_iff.1 hnodup
  refine Option.ext fun found => ⟨fun hfound => ?_, fun hfound => ?_⟩
  · exact Fields.lookup_of_mem (h.mem_iff.1 (Fields.mem_of_lookup hfound)) hnodup'
  · exact Fields.lookup_of_mem (h.mem_iff.2 (Fields.mem_of_lookup hfound)) hnodup

/-- Equality does not see the order of fields. -/
theorem same_of_reordered (hdistinct : other.Distinct) (h : other.Reordered stored)
    (hsame : value.same other = true) : value.same stored = true := by
  cases h with
  | refl => exact hsame
  | obj hperm =>
    cases value with
    | obj fields =>
      rw [same, Bool.and_eq_true, beq_iff_eq] at hsame ⊢
      refine ⟨hsame.1.trans hperm.length_eq, sameFields_iff.2 fun name value hmem => ?_⟩
      rw [← lookup_perm hperm hdistinct.1]
      exact sameFields_iff.1 hsame.2 name value hmem
    | _ => cases hsame

end Json

namespace Definition

/-- The values that have a shape of the kind, in whatever order their fields stand. -/
def Kind.Fits (kind : Kind) (value : Json) : Prop := ∃ sent, kind.Takes sent ∧ sent.Reordered value

namespace Item

variable {item : Item} {kind : Kind} {value sent stored : Json}

/-! ### Shapes stay -/

/-- An amount and a currency are found in whatever order they stand. -/
theorem moneyOf?_reordered {amount : Number} {currency : String} {fields : Fields Json}
    (h : List.Perm [("amount", .num amount), ("currency", .str currency)] fields) :
    item.moneyOf? (.obj fields) = some (.obj [("amount", .num amount), ("currency", .str currency)]) := by
  have hlookup := Json.lookup_perm h (by simp [Fields.names])
  refine moneyOf?_eq_some_iff.2 ⟨.num amount, .num amount, currency, ?_, rfl, ?_, rfl⟩
  · exact (hlookup "amount").symm
  · have hcurrency : Json.field? (.obj fields) "currency" = some (.str currency) :=
      (hlookup "currency").symm
    rw [currency?, hcurrency]
    rfl

theorem phoneOf?_reordered {countryCode phoneNumber : String} {fields : Fields Json}
    (h : List.Perm [("countryCode", .str countryCode), ("phoneNumber", .str phoneNumber)] fields) :
    item.phoneOf? (.obj fields) =
      some (.obj [("countryCode", .str countryCode), ("phoneNumber", .str phoneNumber)]) := by
  have hlookup := Json.lookup_perm h (by simp [Fields.names])
  have hcountry : Fields.get? fields "countryCode" = some (.str countryCode) := (hlookup "countryCode").symm
  have hnumber : Fields.get? fields "phoneNumber" = some (.str phoneNumber) := (hlookup "phoneNumber").symm
  have hcountryText : fieldText? fields "countryCode" "country_code" = some countryCode := by
    rw [fieldText?, hcountry]; rfl
  have hnumberText : fieldText? fields "phoneNumber" "phone_number" = some phoneNumber := by
    rw [fieldText?, hnumber]; rfl
  simp only [phoneOf?, hcountryText, hnumberText]
  rfl

/-- A value that has a shape of its item is sent in that shape, whatever the order of its fields. -/
theorem shape_of_reordered (h : item.kind.Takes sent) (horder : sent.Reordered value) :
    item.shape value = sent := by
  generalize hkind : item.kind = kind at h
  cases h with
  | text text hmem =>
    cases horder
    simp only [List.mem_cons, List.not_mem_nil, or_false] at hmem
    rcases hmem with rfl | rfl | rfl | rfl | rfl | rfl <;> rw [shape, shape?, hkind] <;> rfl
  | number number | checkbox flag =>
    cases horder
    rw [shape, shape?, hkind]; rfl
  | @list _ items hmem hscalar =>
    cases horder
    have hall : items.all isScalar = true :=
      List.all_eq_true.2 fun item hitem => isScalar_iff.2 (hscalar item hitem)
    have hlist : listOf? (.arr items) = some (.arr items) := if_pos hall
    simp only [List.mem_cons, List.not_mem_nil, or_false] at hmem
    rcases hmem with rfl | rfl <;> rw [shape, shape?, hkind] <;> simp only [hlist] <;> rfl
  | money amount currency =>
    obtain ⟨fields, rfl, hperm⟩ := horder.of_obj
    rw [shape, shape?, hkind]
    simp only [moneyOf?_reordered hperm]
    rfl
  | phone countryCode phoneNumber =>
    obtain ⟨fields, rfl, hperm⟩ := horder.of_obj
    rw [shape, shape?, hkind]
    simp only [phoneOf?_reordered hperm]
    rfl

/-- A value that fits its item is sent as an equal one. -/
theorem same_shape_of_fits (h : item.kind.Fits value) : (item.shape value).same value = true := by
  obtain ⟨sent, htakes, horder⟩ := h
  have hdistinct := distinct_of_takes htakes
  rw [shape_of_reordered htakes horder]
  exact Json.same_of_reordered hdistinct horder (Json.same_self hdistinct)

/-! ### Equal values -/

theorem scalar_of_same (h : value.Scalar) (hsame : value.same stored = true) : stored.Scalar := by
  cases h with
  | str text => cases stored with
    | str other => exact .str other
    | _ => cases hsame
  | num number => cases stored with
    | num other => exact .num other
    | _ => cases hsame
  | bool flag => cases stored with
    | bool other => exact .bool other
    | _ => cases hsame

theorem scalars_of_sameItems {items others : List Json} (h : ∀ item ∈ items, item.Scalar)
    (hsame : Json.sameItems items others = true) : ∀ other ∈ others, other.Scalar := by
  induction items generalizing others with
  | nil =>
    cases others with
    | nil => exact fun other hother => absurd hother List.not_mem_nil
    | cons => cases hsame
  | cons item items ih =>
    cases others with
    | nil => cases hsame
    | cons other others =>
      rw [Json.sameItems, Bool.and_eq_true] at hsame
      rw [List.forall_mem_cons] at h ⊢
      exact ⟨scalar_of_same h.1 hsame.1, ih h.2 hsame.2⟩

/-- An object of two fields that equals another one has its names, in one order or the other. -/
theorem perm_of_same {first second : String} {a b : Json} {fields : Fields Json} (hne : first ≠ second)
    (h : (Json.obj [(first, a), (second, b)]).same (.obj fields) = true) :
    ∃ a' b', a.same a' = true ∧ b.same b' = true ∧ List.Perm [(first, a'), (second, b')] fields ∧
      (Json.obj [(first, a), (second, b)]).same (.obj [(first, a'), (second, b')]) = true := by
  rw [Json.same, Bool.and_eq_true, beq_iff_eq] at h
  obtain ⟨hlength, hfields⟩ := h
  rw [Json.sameFields_iff] at hfields
  obtain ⟨a', hfirst, ha⟩ := hfields first a (by simp)
  obtain ⟨b', hsecond, hb⟩ := hfields second b (by simp)
  have hsub : [(first, a'), (second, b')] ⊆ fields := by
    rw [List.cons_subset, List.cons_subset]
    exact ⟨Fields.mem_of_lookup hfirst, Fields.mem_of_lookup hsecond, List.nil_subset _⟩
  have hnodup : [(first, a'), (second, b')].Nodup := by simp [hne]
  refine ⟨a', b', ha, hb, (hnodup.subperm hsub).perm_of_length_le (Nat.le_of_eq hlength.symm), ?_⟩
  simp [Json.same, Json.sameFields, lookup_cons, hne.symm, ha, hb]

/-- What equals a value in a shape of a kind fits the kind, too. -/
theorem fits_of_same (h : kind.Takes sent) (hsame : sent.same stored = true) :
    ∃ other, kind.Takes other ∧ other.Reordered stored ∧ sent.same other = true := by
  cases h with
  | text text hmem =>
    cases stored with
    | str other => exact ⟨_, .text other hmem, .refl _, hsame⟩
    | _ => cases hsame
  | number number =>
    cases stored with
    | num other => exact ⟨_, .number other, .refl _, hsame⟩
    | _ => cases hsame
  | checkbox flag =>
    cases stored with
    | bool other => exact ⟨_, .checkbox other, .refl _, hsame⟩
    | _ => cases hsame
  | list hmem hscalar =>
    cases stored with
    | arr others => exact ⟨_, .list hmem (scalars_of_sameItems hscalar hsame), .refl _, hsame⟩
    | _ => cases hsame
  | money amount currency =>
    cases stored with
    | obj fields =>
      obtain ⟨amount', currency', hamount, hcurrency, hperm, hsame⟩ := perm_of_same (by decide) hsame
      cases amount' with
      | num amount' => cases currency' with
        | str currency' => exact ⟨_, .money amount' currency', .obj hperm, hsame⟩
        | _ => cases hcurrency
      | _ => cases hamount
    | _ => cases hsame
  | phone countryCode phoneNumber =>
    cases stored with
    | obj fields =>
      obtain ⟨countryCode', phoneNumber', hcountry, hphone, hperm, hsame⟩ := perm_of_same (by decide) hsame
      cases countryCode' with
      | str countryCode' => cases phoneNumber' with
        | str phoneNumber' => exact ⟨_, .phone countryCode' phoneNumber', .obj hperm, hsame⟩
        | _ => cases hphone
      | _ => cases hcountry
    | _ => cases hsame

/-- Of a value that fits its item, an equal one is sent for an equal one. -/
theorem same_shape_of_same (h : item.kind.Takes sent) (hsame : sent.same stored = true) :
    sent.same (item.shape stored) = true := by
  obtain ⟨other, hother, horder, hsame⟩ := fits_of_same h hsame
  rwa [shape_of_reordered hother horder]

end Item

end Definition

/-! ### Payloads -/

namespace Form

variable {form : Form} {state other : State} {shown : View → Bool}

theorem names_payload_congr (hvisibility : state.visibility = other.visibility) :
    Fields.names (form.payload other shown) = Fields.names (form.payload state shown) := by
  have hsends : form.sends other shown = form.sends state shown := by
    funext item
    rw [sends, sends, State.isVisible, State.isVisible, hvisibility]
  rw [names_payload, names_payload, hsends]

/-- What is sent for an answer is sent again where the answer is given back, if it has the shape of its
item or is `null`. -/
theorem exists_same_of_mem_payload (hvisibility : state.visibility = other.visibility) {answer : String}
    {value stored : Json} (hmem : (answer, value) ∈ form.payload state shown)
    (htakes : ∀ item ∈ form.items, item.answer? = some answer →
      value = .null ∨ item.source.kind.Takes value)
    (hstored : other.value? answer = some stored) (hsame : value.same stored = true) :
    ∃ again, (form.payload other shown).lookup answer = some again ∧ value.same again = true := by
  obtain ⟨view, hview, item, hitem, hanswer, hshown, -⟩ := mem_payload.1 hmem
  have hshown' : (shown view = true ∧ other.isVisible item.id = true) ∨
      item.source.includeWhenHidden = true := by
    rwa [State.isVisible, ← hvisibility]
  have hagain := mem_payload.2 ⟨view, hview, item, hitem, hanswer, hshown', rfl⟩
  refine ⟨_, Fields.lookup_of_mem hagain nodup_names_payload, ?_⟩
  rw [hstored, Option.getD_some]
  rcases htakes item (mem_items_iff.2 ⟨view, hview, hitem⟩) hanswer with rfl | htakes
  · cases stored with
    | null => rfl
    | _ => cases hsame
  · exact Definition.Item.same_shape_of_same htakes hsame

/-- What has its shape already is sent as it is, whatever the properties of its item. So where all that is
sent has the shape of its item, or is `null`, it can be given back as answers, as it is or as equal values:
with the same items shown the same is sent again. -/
theorem sends_again :
    (∀ (item : Definition.Item) (value : Json), item.kind.Fits value → (item.shape value).same value = true) ∧
    ∀ (form : Form) (state other : State) (shown : View → Bool), state.visibility = other.visibility →
      (∀ answer value, (answer, value) ∈ form.payload state shown →
        (∀ item ∈ form.items, item.answer? = some answer → value = .null ∨ item.source.kind.Takes value) ∧
        ∃ stored, other.value? answer = some stored ∧ value.same stored = true) →
      Fields.names (form.payload other shown) = Fields.names (form.payload state shown) ∧
        Json.sameObject (form.payload state shown) (form.payload other shown) = true := by
  refine ⟨fun item value => Definition.Item.same_shape_of_fits, fun form state other shown hvisibility h => ?_⟩
  have hnames : Fields.names (form.payload other shown) = Fields.names (form.payload state shown) :=
    names_payload_congr hvisibility
  refine ⟨hnames, ?_⟩
  rw [Json.sameObject, Bool.and_eq_true, beq_iff_eq]
  refine ⟨?_, Json.sameFields_iff.2 fun answer value hmem => ?_⟩
  · have hlength := congrArg List.length hnames
    simpa [Fields.names] using hlength.symm
  · obtain ⟨htakes, stored, hstored, hsame⟩ := h answer value hmem
    exact exists_same_of_mem_payload hvisibility hmem htakes hstored hsame

/-- An order with a fee, which is in euros unless the answer says otherwise, and some tags. -/
def orderDefinition : Definition where
  id := "order"
  title := "Order"
  version := "1"
  views := [{ id := "only", items := [Definition.Item.fee, { id := "tags", kind := .multiselect }] }]

def order : Form where
  definition := orderDefinition
  sound := by decide
  views := View.ofDefinitions 0 0 orderDefinition.views
  views_eq := rfl
  items := _
  items_eq := rfl
  index := _
  index_eq := rfl

/-- The fee is in dollars and stays so, also where the answers come back in another order. -/
theorem sends_again_order :
    let amount : Json := .int 5
    let state : State := {
      values := [("tags", .texts ["new"]), ("fee", .obj [("currency", .str "USD"), ("amount", amount)])] }
    let other : State := {
      values := [("fee", .obj [("currency", .str "USD"), ("amount", amount)]), ("tags", .texts ["new"])] }
    let sent : Fields Json :=
      [("fee", .obj [("amount", amount), ("currency", .str "USD")]), ("tags", .texts ["new"])]
    order.payload state (fun _ => true) = sent ∧
      Json.sameObject (order.payload state fun _ => true) (order.payload other fun _ => true) = true ∧
      (Definition.Item.fee.shape (.obj [("currency", .str "USD"), ("amount", amount)])).same
        (.obj [("currency", .str "USD"), ("amount", amount)]) = true := by
  intro amount state other sent
  have hsent : order.payload state (fun _ => true) = sent := rfl
  refine ⟨hsent, (sends_again.2 order state other (fun _ => true) rfl fun answer value hmem => ?_).2,
    sends_again.1 Definition.Item.fee _ ⟨_, .money (.int 5) "USD", .obj (.swap _ _ _)⟩⟩
  have hitems : ∀ item ∈ order.items, item.source = Definition.Item.fee ∨
      item.source = { id := "tags", kind := .multiselect } := by
    intro item hitem
    rcases List.mem_pair.1 (hitem : item ∈ [order.items[0], order.items[1]]) with rfl | rfl
    · exact .inl rfl
    · exact .inr rfl
  rw [hsent] at hmem
  rcases List.mem_pair.1 hmem with heq | heq <;> cases heq
  · refine ⟨fun item hitem hanswer => .inr ?_, _, rfl, rfl⟩
    rcases hitems item hitem with hsource | hsource
    · rw [hsource]; exact .money (.int 5) "USD"
    · rw [Form.Item.answer?, hsource] at hanswer
      exact absurd hanswer (by decide)
  · refine ⟨fun item hitem hanswer => .inr ?_, _, rfl, rfl⟩
    rcases hitems item hitem with hsource | hsource
    · rw [Form.Item.answer?, hsource] at hanswer
      exact absurd hanswer (by decide)
    · rw [hsource]
      exact .list (by decide) fun item hitem => List.mem_singleton.1 hitem ▸ .str "new"

end Form

end Formwork
