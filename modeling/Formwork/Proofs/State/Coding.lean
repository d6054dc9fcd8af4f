import Mathlib
import Formwork.Proofs.Definition.Coding
import Formwork.State.Coding

/-!
# States survive a round trip

Maps and sets are in the order of their names, so they are read again as the maps and sets they were
(`NameMap.ofList_entries`). The values in a state are read again if no object in them has a name twice.
-/

namespace Formwork

open Decoder

theorem NameMap.reads {α : Type} {decodeValue : Decoder α} {encodeValue : α → Json} {map : NameMap α}
    (h : ∀ name value, (name, value) ∈ map.entries → decodeValue.Reads (encodeValue value) value) :
    (NameMap.decode decodeValue).Reads (map.encode encodeValue) map := by
  have hfields : fields decodeValue (.ofJson (map.encode encodeValue)) = .ok map.entries :=
    reads_fields nodup_names h
  show (do return .ofList (← fields decodeValue (.ofJson (map.encode encodeValue)))) = Except.ok map
  rw [hfields]
  exact congrArg Except.ok (ofList_entries map)

theorem NameSet.reads (set : NameSet) : decode.Reads set.encode set := by
  have hnames : list text (.ofJson set.encode) = .ok set.names := reads_texts _
  show (do return .ofNames (← list text (.ofJson set.encode))) = Except.ok set
  rw [hnames]
  exact congrArg Except.ok (ofNames_names set)

theorem Messages.reads (messages : Messages) : decode.Reads messages.encode messages :=
  NameMap.reads fun _ texts _ => reads_texts texts

theorem Offer.reads {offer : Offer} (h : offer.value.Distinct) : decode.Reads offer.encode offer :=
  @reads_record _ _ parts [("value", some offer.value), ("label", some (.str offer.label)),
      ("disabled", some (.bool offer.disabled)), ("visible", some (.bool offer.visible))] rfl (by decide) <|
    .ap (.ap (.ap (.ap (.pure _)
      (.present (by simp) (reads_json h)))
      (.present (by simp) (reads_text _)))
      (.present (by simp) (reads_flag _)))
      (.present (by simp) (reads_flag _))

namespace State

/-- No object in the answers and choices of a state has a name twice, as in all values that have been
read. -/
structure Distinct (state : State) : Prop where
  values : (Json.obj state.values).Distinct
  offers : ∀ item offers, (item, offers) ∈ state.choices.entries → ∀ offer ∈ offers, offer.value.Distinct

theorem encode_eq_present (state : State) : state.encode = Fields.present [
    ("values", some (.obj state.values)), ("visibility", some (state.visibility.encode .bool)),
    ("read_only", some (state.readOnly.encode .bool)), ("errors", some state.errors.encode),
    ("form_errors", if state.formErrors.isEmpty then none else some (.texts state.formErrors)),
    ("choices", some (state.choices.encode fun offers => .arr (offers.map Offer.encode))),
    ("current_view", some (.str state.currentView)), ("completed_views", some state.completedViews.encode),
    ("revision", some (.int state.revision))] := by
  rw [encode]
  split <;> rfl

theorem reads {state : State} (h : state.Distinct) : decode.Reads state.encode state := by
  rw [encode_eq_present]
  exact reads_record rfl (by decide) <|
    .ap (.ap (.ap (.ap (.ap (.ap (.ap (.ap (.ap (.pure _)
      (.present (by simp) (reads_object h.values)))
      (.present (by simp) (NameMap.reads fun _ shown _ => reads_flag shown)))
      (.present (by simp) (NameMap.reads fun _ locked _ => reads_flag locked)))
      (.present (by simp) (Messages.reads _)))
      (.unlessEmpty (by simp) (reads_texts _)))
      (.present (by simp) (NameMap.reads fun item offers hmem =>
        reads_list fun offer hoffer => Offer.reads (h.offers item offers hmem offer hoffer))))
      (.present (by simp) (reads_text _)))
      (.present (by simp) (NameSet.reads _)))
      (.present (by simp) (reads_natural _))

end State

/-- A definition that is read from a value or from a text, however it is written there, is read again from
what is written for it, and so is every state. -/
theorem documents_survive :
    (∀ value definition, runValue Definition.decode value = .ok definition →
      runValue Definition.decode definition.encode = .ok definition) ∧
    (∀ source definition, run Definition.decode source = .ok definition →
      runValue Definition.decode definition.encode = .ok definition) ∧
    ∀ state : State, state.Distinct → runValue State.decode state.encode = .ok state := by
  have hwritten : ∀ document definition, Definition.decode document = .ok definition →
      runValue Definition.decode definition.encode = .ok definition := fun document definition h =>
    congrArg (Except.mapError fun _ => Fault.mismatch) (Definition.survives document definition h)
  refine ⟨fun value definition h => ?_, fun source definition h => ?_, fun state h => ?_⟩
  · cases hread : Definition.decode (.ofJson value) with
    | error fault => rw [runValue, hread] at h; cases h
    | ok found =>
      rw [runValue, hread] at h
      cases h
      exact hwritten _ definition hread
  · obtain ⟨found, hread, hfinish⟩ := bind_eq_ok.1 h
    exact hwritten _ definition (eq_of_finish hfinish ▸ hread)
  · exact congrArg (Except.mapError fun _ => Fault.mismatch) (State.reads h)

/-- A form whose page is an array, with a field of no meaning and a `null` for the description; a form that
is itself an array, in a text; and a state with an answer and a choice. -/
theorem documents_survive_order :
    let order : Definition := { id := "order", title := "Order", version := "1", views := [{ id := "only" }] }
    let draft : Definition := { id := "draft", title := "Draft", version := "0", views := [] }
    let value : Json := .obj [("id", .str "order"), ("colour", .str "red"), ("title", .str "Order"),
      ("description", .null), ("version", .str "1"), ("views", .arr [.arr [.str "only"]])]
    let source := "[\"draft\", \"Draft\", \"0\", null, null, \x7b\x7d, []]"
    let state : State := { values := [("size", .str "m")]
                           choices := .ofList [("size", [⟨.str "m", "Medium", false, true⟩])]
                           completedViews := .ofNames ["only"] }
    (runValue Definition.decode value = .ok order ∧ runValue Definition.decode order.encode = .ok order) ∧
      (run Definition.decode source = .ok draft ∧ runValue Definition.decode draft.encode = .ok draft) ∧
      runValue State.decode state.encode = .ok state := by
  intro order draft value source state
  have hvalue : runValue Definition.decode value = .ok order := rfl
  have hsource : run Definition.decode source = .ok draft := by cbv
  have hstate : state.Distinct := by
    refine ⟨by simp [state, Json.Distinct, Json.DistinctFields, Fields.names], ?_⟩
    intro item offers hmem offer hoffer
    have hentries : state.choices.entries = [("size", [⟨.str "m", "Medium", false, true⟩])] := rfl
    rw [hentries, List.mem_singleton] at hmem
    cases hmem
    rw [List.mem_singleton.1 hoffer]
    trivial
  exact ⟨⟨hvalue, documents_survive.1 value order hvalue⟩,
    ⟨hsource, documents_survive.2.1 source draft hsource⟩, documents_survive.2.2 state hstate⟩

end Formwork
