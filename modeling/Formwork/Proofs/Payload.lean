import Mathlib.Data.List.Pairwise
import Formwork.Proofs.Pass.Evaluation
import Formwork.Proofs.Validation
import Formwork.Session.Basic

/-!
# Hidden answers stay

An item knows the view that it lies in, so the payload of a form is one walk over its items
(`payload_eq`): it holds the answers of the items that are sent, each once, in the order of the items. What stands there is made of the item and its own answer, so nothing else can show through.
-/

namespace Formwork.Form

variable {form : Form} {state other : State} {shown : View → Bool} {item : Item}

/-! ### What is sent -/

/-- Whether the answer of an item is sent when the given views are shown. -/
def sends (form : Form) (state : State) (shown : View → Bool) (item : Item) : Bool :=
  ((form.viewOf? item).any shown && state.isVisible item.id) || item.source.includeWhenHidden

theorem sends_iff (hitem : item ∈ form.items) : form.sends state shown item = true ↔
    ((∃ view ∈ form.views, item ∈ view.items ∧ shown view = true) ∧ state.isVisible item.id = true) ∨
      item.source.includeWhenHidden = true := by
  have hview : (form.viewOf? item).any shown = true ↔
      ∃ view ∈ form.views, item ∈ view.items ∧ shown view = true := by
    rw [Option.any_eq_true]
    simp only [viewOf?_eq_some_iff hitem, and_assoc]
  rw [sends, Bool.or_eq_true, Bool.and_eq_true, hview]

/-- The answer of an item as it is sent. -/
def Item.entry (item : Item) (state : State) (answer : String) : String × Json :=
  (answer, item.source.shape ((state.value? answer).getD .null))

/-- The payload goes through the items in order. -/
theorem payload_eq : form.payload state shown = form.items.filterMap fun item =>
    if form.sends state shown item then item.answer?.map (item.entry state) else none := by
  rw [form.items_eq, payload, List.filterMap_flatMap]
  refine List.flatMap_congr fun view hview => List.filterMap_congr fun item hitem => ?_
  rw [Item.sent?, sends, viewOf?_of_mem hview hitem, Option.any_some]
  cases item.answer? with
  | none => simp
  | some answer => rfl

theorem names_payload : Fields.names (form.payload state shown) = form.items.filterMap fun item =>
    if form.sends state shown item then item.answer? else none := by
  rw [payload_eq, Fields.names, List.map_filterMap]
  refine List.filterMap_congr fun item _ => ?_
  split
  · cases item.answer? <;> rfl
  · rfl

theorem nodup_names_payload : (Fields.names (form.payload state shown)).Nodup := by
  rw [names_payload, List.Nodup, List.pairwise_filterMap]
  refine pairwise_items.imp fun {first second} hapart answer hfirst answer' hsecond heq => ?_
  have hanswer : ∀ {item : Item} {answer : String},
      (if form.sends state shown item then item.answer? else none) = some answer →
        item.answer? = some answer := by
    intro item answer h
    split at h
    · exact h
    · cases h
  exact hapart.answer_ne answer (hanswer hfirst) (heq ▸ hanswer hsecond)

/-- Answers that are not sent do not show in what is. -/
theorem payload_congr (hvisibility : state.visibility = other.visibility)
    (hvalues : ∀ answer, state.value? answer ≠ other.value? answer →
      ∃ item ∈ form.items, item.answer? = some answer ∧ form.sends state shown item = false) :
    form.payload state shown = form.payload other shown := by
  have hsends : form.sends other shown = form.sends state shown := by
    funext item
    rw [sends, sends, State.isVisible, State.isVisible, hvisibility]
  rw [payload_eq, payload_eq, hsends]
  refine List.filterMap_congr fun item hitem => ?_
  by_cases hsent : form.sends state shown item = true
  · rw [if_pos hsent, if_pos hsent]
    refine Option.map_congr fun answer hanswer => ?_
    -- the item of an answer that differs is another one, as this one is sent
    have hsame : state.value? answer = other.value? answer := by
      by_contra hne
      obtain ⟨excluded, hexcluded, hheld, hnot⟩ := hvalues answer hne
      rw [item_ext_answer hexcluded hitem hheld hanswer, hsent] at hnot
      cases hnot
    rw [Item.entry, hsame, Item.entry]
  · rw [if_neg hsent, if_neg hsent]

theorem get?_payload {answer : String} (hitem : item ∈ form.items) (hanswer : item.answer? = some answer)
    (hsent : form.sends state shown item = true) :
    Fields.get? (form.payload state shown) answer =
      some (item.source.shape ((state.value? answer).getD .null)) := by
  have hmem : item.entry state answer ∈ form.payload state shown := by
    rw [payload_eq, List.mem_filterMap]
    exact ⟨item, hitem, by rw [if_pos hsent, hanswer]; rfl⟩
  exact Fields.lookup_of_mem hmem nodup_names_payload

/-- Hidden answers are not sent. The keys of a payload are the answers of the items that are shown, in a
view that is shown, and of those that are sent even when hidden, once each and in the order of the items;
a key has what the type of its item makes of its own answer. So the answers of the other items make no
difference, and where all views are shown a session sends what the form would without asking for views. -/
theorem sends_only_shown (form : Form) :
    (∀ state shown,
      (∀ item ∈ form.items, form.sends state shown item = true ↔
        ((∃ view ∈ form.views, item ∈ view.items ∧ shown view = true) ∧ state.isVisible item.id = true) ∨
          item.source.includeWhenHidden = true) ∧
      (Fields.names (form.payload state shown) = form.items.filterMap fun item =>
        if form.sends state shown item then item.answer? else none) ∧
      (Fields.names (form.payload state shown)).Nodup ∧
      ∀ item ∈ form.items, ∀ answer, item.answer? = some answer → form.sends state shown item = true →
        Fields.get? (form.payload state shown) answer =
          some (item.source.shape ((state.value? answer).getD .null))) ∧
    (∀ (state other : State) shown, state.visibility = other.visibility →
      (∀ answer, state.value? answer ≠ other.value? answer →
        ∃ item ∈ form.items, item.answer? = some answer ∧ form.sends state shown item = false) →
      form.payload state shown = form.payload other shown) ∧
    ∀ session : Session, session.form = form → (∀ view ∈ form.views, session.shows view = true) →
      session.payload = form.payload session.state fun _ => true := by
  refine ⟨fun state shown => ⟨fun item => sends_iff, names_payload, nodup_names_payload,
      fun item hitem answer => get?_payload hitem⟩,
    fun state other shown => payload_congr, fun session hform hshown => ?_⟩
  subst hform
  refine List.flatMap_congr fun view hview => ?_
  rw [hshown view hview]

/-- The answer of `c` stays where `c` is hidden, whatever it is. -/
theorem sends_only_shown_echo :
    let state : State := { values := [("c", .str "x"), ("a", .str "y")], visibility := .ofList [("c", false)] }
    let other : State := { state with values := [("a", .str "y"), ("c", .str "z")] }
    let session : Session := { form := echo, setting := {}, store := { current := state } }
    echo.payload state (fun _ => true) = echo.payload other (fun _ => true) ∧
      Fields.get? (echo.payload state fun _ => true) "a" = some (.str "y") ∧
      Fields.names session.payload = ["a", "b"] := by
  intro state other session
  have hsends := sends_only_shown echo
  have hsame : echo.payload state (fun _ => true) = echo.payload other (fun _ => true) := by
    refine hsends.2.1 state other _ rfl fun answer hne => ?_
    have hother : answer = "c" := by
      by_contra hc
      refine hne ?_
      rw [State.value?, State.value?, Fields.get?, Fields.get?, lookup_cons, if_neg hc, lookup_cons, lookup_cons,
        lookup_cons, if_neg hc]
    exact ⟨echo.items[2], List.getElem_mem _, by rw [hother]; rfl, by decide +kernel⟩
  have hall : session.payload = echo.payload state fun _ => true :=
    hsends.2.2 session rfl fun view hview => by
      rw [List.mem_singleton.1 hview]; rfl
  refine ⟨hsame, ?_, ?_⟩
  · exact (hsends.1 state fun _ => true).2.2.2 echo.items[0] (List.getElem_mem _) "a" rfl (by decide +kernel)
  · rw [hall, (hsends.1 state fun _ => true).2.1]
    decide +kernel

end Formwork.Form
