import Formwork.Proofs.Session.Distinct
import Formwork.Proofs.Session.Submit

/-!
# What the host has to say

A message of the host goes to one place: to an item or to the form as a whole (`Form.Addresses`). Seen from
there, merging appends the messages that arrive and are new, each where it arrives first, and touches no other
place (`Session.messagesAt_told`). So all that is merged again is known, and is not stored a second time
(`Journey.merges_host_errors`).
-/

namespace Formwork

/-! ### Messages that are new -/

theorem nodup_eraseDups {α : Type} [BEq α] [LawfulBEq α] : (list : List α) → list.eraseDups.Nodup
  | [] => List.nodup_nil
  | a :: list => by
    rw [List.eraseDups_cons, List.nodup_cons]
    refine ⟨?_, nodup_eraseDups _⟩
    simp [List.mem_eraseDups]
termination_by list => list.length
decreasing_by exact Nat.lt_succ_of_le (List.length_filter_le _ _)

namespace State

variable {state : State} {known messages : List String} {message : String}

theorem addNew_of_mem (h : message ∈ known) : addNew known [message] = known := by
  rw [addNew, List.foldl_cons, List.foldl_nil, if_pos (List.contains_iff_mem.2 h)]

theorem addNew_append (known first second : List String) :
    addNew (addNew known first) second = addNew known (first ++ second) := List.foldl_append.symm

/-- The messages that are not known are appended, each where it first arrives. -/
theorem addNew_eq (known messages : List String) :
    addNew known messages = known ++ (messages.filter (· ∉ known)).eraseDups := by
  induction messages generalizing known with
  | nil => simp [addNew]
  | cons message messages ih =>
    rw [addNew, List.foldl_cons]
    by_cases hknown : message ∈ known
    · rw [if_pos (List.contains_iff_mem.2 hknown), List.filter_cons_of_neg (by simpa using hknown)]
      exact ih known
    · have hnew : known.contains message = false := by simpa using hknown
      have hrest : (messages.filter (· ∉ known)).filter (fun other => !other == message) =
          messages.filter (· ∉ known ++ [message]) := by
        rw [List.filter_filter]
        refine List.filter_congr fun other _ => ?_
        by_cases hother : other = message <;> simp [hother]
      rw [hnew, List.filter_cons_of_pos (by simpa using hknown), List.eraseDups_cons, hrest]
      exact (ih (known ++ [message])).trans (List.append_assoc ..)

/-! ### Places -/

/-- The messages that are kept about an item, or about the form. -/
def messagesAt (state : State) : Option String → List String
  | some item => state.errorsOf item
  | none => state.formErrors

theorem errorsOf_mergeErrors (item other : String) : (state.mergeErrors item messages).errorsOf other =
    if other = item then addNew (state.errorsOf item) messages else state.errorsOf other := by
  have hstored (messages : List String) :
      (if messages = [] then none else some messages).getD [] = messages := by
    cases messages <;> rfl
  rw [errorsOf, mergeErrors, Form.get?_errors_replaceErrors]
  split
  · exact hstored _
  · rfl

theorem replaceErrors_self {item : String} (h : state.errorsOf item ≠ []) :
    state.replaceErrors item (state.errorsOf item) = state := by
  have herrors : (state.replaceErrors item (state.errorsOf item)).errors = state.errors := by
    refine NameMap.ext fun other => ?_
    rw [Form.get?_errors_replaceErrors, if_neg h]
    split
    · rename_i hother
      rw [hother]
      rw [errorsOf] at h ⊢
      cases hfound : state.errors.get? item with
      | none => rw [hfound] at h; exact absurd rfl h
      | some messages => rfl
    · rfl
  show { state with errors := (state.replaceErrors item (state.errorsOf item)).errors } = state
  rw [herrors]

end State

/-- Where the host's messages about a field go: to the item that holds the answer of that name, else to the
item of that id, else to the form. -/
inductive Form.Addresses (form : Form) (field : String) : Option String → Prop
  | answer {item : Item} : item ∈ form.items → item.answer? = some field → Addresses form field (some item.id)
  | id {item : Item} : (∀ other ∈ form.items, other.answer? ≠ some field) → item ∈ form.items →
    item.id = field → Addresses form field (some item.id)
  | whole : (∀ item ∈ form.items, item.answer? ≠ some field) → (∀ item ∈ form.items, item.id ≠ field) →
    Addresses form field none

namespace Session

variable {session : Session} {state : State} {fields : List FieldError} {error : FieldError}
  {place : Option String}

/-- The place that a field of the host names. -/
def addressee (session : Session) (field : String) : Option String := (session.itemOfField? field).map (·.id)

theorem addresses_addressee (session : Session) (field : String) :
    session.form.Addresses field (session.addressee field) := by
  rw [addressee, itemOfField?]
  cases hanswer : session.form.itemOf? field with
  | some item =>
    obtain ⟨hitem, hholds⟩ := Form.itemOf?_eq_some_iff.1 hanswer
    exact .answer hitem hholds
  | none =>
    have hnone := Form.itemOf?_eq_none_iff.1 hanswer
    cases hid : session.form.item? field with
    | some item =>
      obtain ⟨hitem, hname⟩ := Form.item?_eq_some_iff.1 hid
      exact .id hnone hitem hname
    | none => exact .whole hnone (Form.item?_eq_none_iff.1 hid)

/-- A field names one place only. -/
theorem addressee_of_addresses {field : String} (h : session.form.Addresses field place) :
    session.addressee field = place := by
  rw [addressee, itemOfField?]
  cases h with
  | answer hitem hholds => rw [Form.itemOf?_eq_some_iff.2 ⟨hitem, hholds⟩]; rfl
  | id hnone hitem hname =>
    rw [Form.itemOf?_eq_none_iff.2 hnone, Form.item?_eq_some_iff.2 ⟨hitem, hname⟩]; rfl
  | whole hnone hunnamed =>
    rw [Form.itemOf?_eq_none_iff.2 hnone, Form.item?_eq_none_iff.2 hunnamed]; rfl

/-- The messages for a place, in order. -/
def arrivals (session : Session) (fields : List FieldError) (place : Option String) : List String :=
  (fields.filter fun error => session.addressee error.field = place).map (·.message)

theorem messagesAt_tell : (session.tell state error).messagesAt place =
    if session.addressee error.field = place then State.addNew (state.messagesAt place) [error.message]
    else state.messagesAt place := by
  rw [tell, addressee]
  cases session.itemOfField? error.field with
  | some item =>
    cases place with
    | none => rfl
    | some other =>
      show (state.mergeErrors item.id [error.message]).errorsOf other = _
      rw [State.errorsOf_mergeErrors]
      by_cases hother : other = item.id
      · subst hother; rw [if_pos rfl]; exact (if_pos rfl).symm
      · rw [if_neg hother]
        exact (if_neg fun heq => hother (Option.some.inj heq).symm).symm
  | none => cases place <;> rfl

/-- To each place those messages are added that arrive there. -/
theorem messagesAt_foldl_tell (fields : List FieldError) (state : State) (place : Option String) :
    (fields.foldl session.tell state).messagesAt place =
      State.addNew (state.messagesAt place) (session.arrivals fields place) := by
  induction fields generalizing state with
  | nil => rfl
  | cons error fields ih =>
    rw [List.foldl_cons, ih, messagesAt_tell, arrivals, arrivals]
    by_cases hplace : session.addressee error.field = place
    · rw [if_pos hplace, List.filter_cons_of_pos (by simpa using hplace), State.addNew_append]; rfl
    · rw [if_neg hplace, List.filter_cons_of_neg (by simpa using hplace)]

/-- A message that is known already changes nothing. -/
theorem tell_of_mem (h : error.message ∈ state.messagesAt (session.addressee error.field)) :
    session.tell state error = state := by
  rw [tell]
  rw [addressee] at h
  cases hitem : session.itemOfField? error.field with
  | some item =>
    rw [hitem] at h
    have hknown : error.message ∈ state.errorsOf item.id := h
    show state.replaceErrors item.id (State.addNew (state.errorsOf item.id) [error.message]) = state
    rw [State.addNew_of_mem hknown, State.replaceErrors_self (List.ne_nil_of_mem hknown)]
  | none =>
    rw [hitem] at h
    have hknown : error.message ∈ state.formErrors := h
    show { state with formErrors := State.addNew state.formErrors [error.message] } = state
    rw [State.addNew_of_mem hknown]

theorem foldl_tell_of_mem
    (h : ∀ error ∈ fields, error.message ∈ state.messagesAt (session.addressee error.field)) :
    fields.foldl session.tell state = state := by
  induction fields with
  | nil => rfl
  | cons error fields ih =>
    obtain ⟨herror, hfields⟩ := List.forall_mem_cons.1 h
    rw [List.foldl_cons, tell_of_mem herror, ih hfields]

/-! ### What is merged -/

theorem messagesAt_told (session : Session) (fields : List FieldError) (place : Option String) :
    (session.told fields).messagesAt place = session.state.messagesAt place ++
      ((session.arrivals fields place).filter (· ∉ session.state.messagesAt place)).eraseDups := by
  rw [told, messagesAt_foldl_tell, State.addNew_eq]

theorem mem_messagesAt_told (h : error ∈ fields) :
    error.message ∈ (session.told fields).messagesAt (session.addressee error.field) := by
  have harrives : error.message ∈ session.arrivals fields (session.addressee error.field) :=
    List.mem_map.2 ⟨error, List.mem_filter.2 ⟨h, by simp⟩, rfl⟩
  rw [messagesAt_told]
  by_cases hknown : error.message ∈ session.state.messagesAt (session.addressee error.field)
  · exact List.mem_append_left _ hknown
  · exact List.mem_append_right _ (List.mem_eraseDups.2 (List.mem_filter.2 ⟨harrives, by simpa using hknown⟩))

theorem told_eq (session : Session) (fields : List FieldError) : session.told fields =
    { session.state with
      errors := (session.told fields).errors
      formErrors := (session.told fields).formErrors } := by
  refine List.foldlRecOn (motive := fun state : State => state =
    { session.state with errors := state.errors, formErrors := state.formErrors }) fields _ rfl
    fun state hstate error _ => ?_
  rw [tell]
  split
  · show { state with errors := _ } = _
    conv_lhs => rw [hstate]
    rfl
  · show { state with formErrors := _ } = _
    conv_lhs => rw [hstate]
    rfl

theorem get?_errors_tell {name : String} (h : session.addressee error.field ≠ some name) :
    (session.tell state error).errors.get? name = state.errors.get? name := by
  rw [addressee] at h
  rw [tell]
  cases hitem : session.itemOfField? error.field with
  | some item =>
    rw [hitem] at h
    have hother : name ≠ item.id := fun heq => h (congrArg some heq.symm)
    exact (Form.get?_errors_replaceErrors _ name).trans (if_neg hother)
  | none => rfl

/-- An item for which nothing arrives keeps its messages, even an empty list of them. -/
theorem get?_errors_told {name : String} (h : session.arrivals fields (some name) = []) :
    (session.told fields).errors.get? name = session.state.errors.get? name := by
  have helsewhere : ∀ error ∈ fields, session.addressee error.field ≠ some name := by
    simpa [arrivals] using h
  exact List.foldlRecOn (motive := fun state : State =>
    state.errors.get? name = session.state.errors.get? name) fields _ rfl
    fun state hstate error herror => (get?_errors_tell (helsewhere error herror)).trans hstate

/-- No entry is lost, and its messages stay at the front. -/
theorem exists_get?_errors_told {name : String} {old : List String} (fields : List FieldError)
    (h : session.state.errors.get? name = some old) :
    ∃ new, (session.told fields).errors.get? name = some new ∧ old <+: new := by
  have hold : session.state.errorsOf name = old := by rw [State.errorsOf, h]; rfl
  by_cases hnone : session.arrivals fields (some name) = []
  · exact ⟨old, (get?_errors_told hnone).trans h, List.prefix_rfl⟩
  · obtain ⟨message, hmessage⟩ := List.exists_mem_of_ne_nil _ hnone
    obtain ⟨error, herror, -⟩ := List.mem_map.1 hmessage
    obtain ⟨herror, haddressee⟩ := List.mem_filter.1 herror
    have harrived : error.message ∈ (session.told fields).messagesAt (session.addressee error.field) :=
      mem_messagesAt_told herror
    rw [of_decide_eq_true haddressee] at harrived
    have hmessages : (session.told fields).errorsOf name = _ := session.messagesAt_told fields (some name)
    cases hnew : (session.told fields).errors.get? name with
    | none => rw [State.messagesAt, State.errorsOf, hnew] at harrived; cases harrived
    | some new =>
      rw [State.errorsOf, hnew, State.messagesAt, hold, Option.getD_some] at hmessages
      exact ⟨new, rfl, hmessages ▸ List.prefix_append _ _⟩

/-- Apart from messages and the revision, a merge leaves the state as it is. -/
theorem state_mergeHostErrors (session : Session) (fields : List FieldError) :
    (session.mergeHostErrors fields).state =
      { session.state with
        errors := (session.told fields).errors
        formErrors := (session.told fields).formErrors
        revision := (session.mergeHostErrors fields).state.revision } :=
  session.state_commit_of_messages (session.told_eq fields)

theorem messagesAt_mergeHostErrors (session : Session) (fields : List FieldError) :
    (session.mergeHostErrors fields).state.messagesAt = (session.told fields).messagesAt := by
  funext place
  rw [state_mergeHostErrors]
  cases place <;> rfl

/-- All that is merged again is known by now. -/
theorem mergeHostErrors_again (h : (session.mergeHostErrors fields).Distinct) :
    (session.mergeHostErrors fields).mergeHostErrors fields = session.mergeHostErrors fields := by
  have hagain : (session.mergeHostErrors fields).told fields = (session.mergeHostErrors fields).state := by
    refine foldl_tell_of_mem fun error herror => ?_
    rw [messagesAt_mergeHostErrors]
    exact mem_messagesAt_told herror
  show (session.mergeHostErrors fields).commit ((session.mergeHostErrors fields).told fields) = _
  rw [hagain, h.commit_state]

end Session

namespace Journey

variable {journey : Journey}

/-- Whatever the host has to say, each place has the messages that it had, and behind them those that arrive
for it and are new, once each and in order. No other item has messages changed, and the rest of the state
stays as it is. To merge the same again does nothing. -/
theorem merges_host_errors (h : journey.ReachableDistinctly) (fields : List FieldError) :
    let session := journey.session
    let after := session.mergeHostErrors fields
    (∀ name old, session.state.errors.get? name = some old →
      ∃ new, after.state.errors.get? name = some new ∧ old <+: new) ∧
    session.state.formErrors <+: after.state.formErrors ∧
    (∀ error ∈ fields, session.form.Addresses error.field (session.addressee error.field) ∧
      ∀ place, session.form.Addresses error.field place → error.message ∈ after.state.messagesAt place) ∧
    (∀ place,
      let news :=
        ((session.arrivals fields place).filter (· ∉ session.state.messagesAt place)).eraseDups
      after.state.messagesAt place = session.state.messagesAt place ++ news ∧ news.Nodup) ∧
    (∀ name, session.arrivals fields (some name) = [] →
      after.state.errors.get? name = session.state.errors.get? name) ∧
    after.state =
      { session.state with
        errors := after.state.errors
        formErrors := after.state.formErrors
        revision := after.state.revision } ∧
    after = { session with store := after.store } ∧
    after.mergeHostErrors fields = after := by
  intro session after
  have hstate := session.state_mergeHostErrors fields
  have herrors : after.state.errors = (session.told fields).errors := by rw [hstate]
  have hform : after.state.formErrors = (session.told fields).formErrors := by rw [hstate]
  have hplaces : after.state.messagesAt = (session.told fields).messagesAt :=
    session.messagesAt_mergeHostErrors fields
  refine ⟨fun name old hold => ?_, ?_,
    fun error herror => ⟨session.addresses_addressee error.field, fun place hplace => ?_⟩,
    fun place => ⟨?_, nodup_eraseDups _⟩, fun name hname => ?_, ?_, rfl, ?_⟩
  · rw [herrors]
    exact session.exists_get?_errors_told fields hold
  · rw [hform]
    exact ⟨_, (session.messagesAt_told fields none).symm⟩
  · rw [hplaces, ← Session.addressee_of_addresses hplace]
    exact Session.mem_messagesAt_told herror
  · rw [hplaces]
    exact session.messagesAt_told fields place
  · rw [herrors]
    exact Session.get?_errors_told hname
  · rw [herrors, hform]
    exact hstate
  · have hgiven : Operation.Distinct (.session (.mergeHostErrors fields)) := trivial
    exact Session.mergeHostErrors_again (h.perform hgiven).distinct

/-! ### A form to try -/

/-- The first item holds the answer that the second one is named like. -/
def contactDefinition : Definition where
  id := "contact"
  title := "Contact"
  version := "1"
  views := [{ id := "only", items := [
    { id := "phone", kind := .text, answerId := some "mobile" },
    { id := "mobile", kind := .text, answerId := some "spare" }] }]

def contactForm : Form where
  definition := contactDefinition
  sound := by decide
  views := _
  views_eq := rfl
  items := _
  items_eq := rfl
  index := _
  index_eq := rfl

/-- What is said of the answer and of the item is kept once, with the item, and what is said of neither is
kept with the form. -/
theorem merges_host_errors_contact :
    let journey := ofSession (.start contactForm {} [])
    let fields : List FieldError := [⟨"mobile", "Too short"⟩, ⟨"fax", "Unknown"⟩, ⟨"phone", "No answer"⟩,
      ⟨"phone", "Too short"⟩]
    let after := journey.session.mergeHostErrors fields
    after.state.errorsOf "phone" = ["Too short", "No answer"] ∧ after.state.errors.get? "mobile" = none ∧
      after.state.formErrors = ["Unknown"] ∧ after.mergeHostErrors fields = after := by
  intro journey fields after
  have hdefinition : contactForm.definition.Distinct :=
    .of_plain rfl (by simp [contactForm, contactDefinition, Definition.items])
  have hreachable : journey.ReachableDistinctly :=
    .start contactForm {} [] hdefinition trivial trivial (List.forall_mem_nil _)
  obtain ⟨-, -, -, hplaces, helsewhere, -, -, hagain⟩ := merges_host_errors hreachable fields
  refine ⟨(hplaces (some "phone")).1.trans ?_, (helsewhere "mobile" ?_).trans ?_,
    (hplaces none).1.trans ?_, hagain⟩
  · decide +kernel
  · decide +kernel
  · decide +kernel
  · decide +kernel

end Journey
end Formwork
