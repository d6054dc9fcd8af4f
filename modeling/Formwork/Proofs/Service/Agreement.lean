import Formwork.Proofs.Service.Request
import Formwork.Proofs.Session.Editing
import Formwork.Proofs.Session.Target

/-!
# Replies about the current view agree

Each reply opens the session anew. The reply about validity validates the current view, and the one about what
comes next begins a request, which validates the same view before it looks for a target. No validation changes
an answer or what is shown, so the request finds the messages that the first reply tells of, and sends the
payload of the session as it was opened (`Service.Request.replies_agree`). An opened session is at a view of
its form, so neither reply is refused.
-/

namespace Formwork

open Decoder

theorem Json.field?_cons (key : String) (value : Json) (fields : Fields Json) (name : String) :
    (obj ((key, value) :: fields)).field? name = if name = key then some value else (obj fields).field? name :=
  lookup_cons ..

theorem Json.eq_str_of_bind {value : Option Json} {text : String} (h : value.bind str? = some text) :
    value = some (.str text) := by
  obtain ⟨value, rfl, hstr⟩ := Option.bind_eq_some_iff.1 h
  cases value with
  | str other => cases hstr; rfl
  | _ => cases hstr

namespace Session

variable {session : Session} {view : Form.View}

/-! ### What the replies say -/

section

variable {errors : Messages} (hview : view ∈ session.form.views)
  (herrors : (session.validate (.view view.id)).1 = errors)
include hview herrors

theorem validityReply_of_mem (hsome : view.id ≠ "") :
    session.validityReply view.id =
      .ok (.obj [("valid", .bool errors.isEmpty), ("errors", errors.encode)]) := by
  have hnamed : view.id.isEmpty = false := by simpa using hsome
  have hfound := Form.isSome_view? hview
  simp only [validityReply, hnamed, Bool.false_eq_true, if_false, hfound, if_true, herrors]

/-- What comes next is told by the messages about the current view, and where there are none, by where the
view leads to. -/
theorem nextViewReply_of_mem (hcurrent : view.id = session.state.currentView) :
    session.nextViewReply = .ok (
      if errors.isEmpty then
        match session.target? view none with
        | some target => .obj [("status", .str "ready"), ("current_view_id", .str view.id),
            ("next_view_id", .str target), ("data", session.payloadReply)]
        | none => .obj [("status", .str "complete"), ("current_view_id", .str view.id),
            ("next_view_id", .null)]
      else .obj [("status", .str "blocked"), ("current_view_id", .str view.id), ("errors", errors.encode)]) := by
  have hbegin := @Journey.begin_navigate (.ofSession session) { action := .navigate } view none
    rfl hview hcurrent rfl
  have hplace := (Journey.ofSession session).currentView_begin { action := .navigate }
  have hsent : (session.validate (.view view.id)).2.payload = session.payload := session.payload_validate _
  rw [nextViewReply]
  generalize (Journey.ofSession session).begin { action := .navigate } = begun at hbegin hplace ⊢
  obtain ⟨result, next⟩ := begun
  simp only [Journey.ofSession, hsent, herrors] at hbegin hplace ⊢
  subst hbegin
  cases errors.isEmpty with
  | false => simp [hplace, hcurrent]
  | true => cases session.target? view none with
    | none => rfl
    | some target => rfl

end

end Session

namespace Service.Request

variable {request : Request} {session resumed : Session}

theorem reachable_of_resumed {view : String} {completed : List String}
    (h : (Journey.ofSession session).Reachable) (hresumed : session.resumeAt? view completed = some resumed) :
    (Journey.ofSession resumed).Reachable := by
  have hperform := (h.perform (.session (.resumeAt view completed))).handOver (.ofSession resumed)
  simp only [Journey.perform, Session.perform, Journey.ofSession, hresumed] at hperform
  exact hperform

/-- A session that is opened was started, and then perhaps taken up at another view. -/
theorem reachable_of_session (hopens : request.session = .ok session) : (Journey.ofSession session).Reachable := by
  rw [Request.session] at hopens
  obtain ⟨config, -, hopens⟩ := bind_eq_ok.1 hopens
  obtain ⟨definition, -, hopens⟩ := bind_eq_ok.1 hopens
  obtain ⟨form, -, hopens⟩ := bind_eq_ok.1 hopens
  dsimp only at hopens
  split at hopens
  · cases hopens
    exact .start _ _ _
  · split at hopens
    · rename_i hresumed
      cases hopens
      exact reachable_of_resumed (.start _ _ _) hresumed
    · cases hopens

theorem nextView_of_session {reply : Json} (hopens : request.session = .ok session)
    (hreply : session.nextViewReply = .ok reply) : request.nextView = reply.compact := by
  rw [nextView, hopens]
  show respond (session.nextViewReply.mapError .navigation) = _
  rw [hreply]; rfl

theorem validateView_of_session {reply : Json} {view : String} (hopens : request.session = .ok session)
    (hreply : session.validityReply view = .ok reply) : request.validateView view = reply.compact := by
  rw [validateView, hopens]
  show respond ((session.validityReply view).mapError .navigation) = _
  rw [hreply]; rfl

theorem payload_of_session (hopens : request.session = .ok session) :
    request.payload = session.payloadReply.compact := by
  rw [payload, hopens]; rfl

/-- The replies about the current view of a session, where its id is not empty, agree. What comes next is
blocked if and only if the view is not valid, and then both replies have the same errors. It is ready only
where the view is valid, and then it names a view of the form and has the data that the payload is. Else it
is complete. -/
theorem replies_agree (hopens : request.session = .ok session) (hsome : session.state.currentView ≠ "") :
    ∃ next validity, session.nextViewReply = .ok next ∧ request.nextView = next.compact ∧
      session.validityReply session.state.currentView = .ok validity ∧
      request.validateView session.state.currentView = validity.compact ∧
      request.payload = session.payloadReply.compact ∧
      (next.field? "status" = some (.str "blocked") ↔ validity.field? "valid" = some (.bool false)) ∧
      (next.field? "status" = some (.str "blocked") →
        ∃ errors, next.field? "errors" = some errors ∧ validity.field? "errors" = some errors) ∧
      (next.field? "status" = some (.str "ready") →
        validity.field? "valid" = some (.bool true) ∧ next.field? "data" = some session.payloadReply ∧
        ∃ target ∈ session.form.views, next.field? "next_view_id" = some (.str target.id)) ∧
      (next.field? "status" ≠ some (.str "blocked") → next.field? "status" ≠ some (.str "ready") →
        next = .obj [("status", .str "complete"), ("current_view_id", .str session.state.currentView),
          ("next_view_id", .null)]) := by
  obtain ⟨view, hfound⟩ := Option.isSome_iff_exists.1 (reachable_of_session hopens).isPlaced.view
  obtain ⟨hview, hcurrent⟩ := Form.view?_eq_some_iff.1 hfound
  change view ∈ session.form.views at hview
  change view.id = session.state.currentView at hcurrent
  rw [← hcurrent] at hsome ⊢
  generalize herrors : (session.validate (.view view.id)).1 = errors
  have hnext := Session.nextViewReply_of_mem hview herrors hcurrent
  have hvalidity := Session.validityReply_of_mem hview herrors hsome
  refine ⟨_, _, hnext, nextView_of_session hopens hnext, hvalidity, validateView_of_session hopens hvalidity,
    payload_of_session hopens, ?_⟩
  -- each clause is about fields that the replies name, so the three replies are tried one by one
  cases errors.isEmpty with
  | false => simp [Json.field?_cons]
  | true =>
    cases htarget : session.target? view none with
    | none => simp [Json.field?_cons]
    | some target =>
      obtain ⟨next, hmem, rfl, -⟩ := ((Session.target?_eq_some_iff hview).1 htarget).exists_shown
      refine ⟨by simp [Json.field?_cons], by simp [Json.field?_cons], ?_, by simp [Json.field?_cons]⟩
      exact fun _ => ⟨rfl, rfl, next, hmem, rfl⟩

end Service.Request

/-! ### A form to try -/

namespace Form

/-- The first view asks for an agreement. -/
def pledgeDefinition : Definition where
  id := "pledge"
  title := "Pledge"
  version := "1"
  views := [
    { id := "ask", items := [
      { id := "agree", kind := .checkbox, validation := [⟨.custom, "data.agree", "Please agree", []⟩] }] },
    { id := "end" }]

/-- The form of `pledgeDefinition`, with its rule parsed. -/
def pledge : Form where
  definition := pledgeDefinition
  sound := by decide
  views := [
    ⟨0, pledgeDefinition.views[0], none, none, [
      ⟨0, 0, pledgeDefinition.items[0], none, none, none, none, [],
        [⟨⟨.custom, "data.agree", "Please agree", []⟩,
          .custom ⟨"data.agree", .ok (.path .data [.field "agree"])⟩⟩], none⟩]⟩,
    ⟨1, pledgeDefinition.views[1], none, none, []⟩]
  views_eq := by
    have hagree : (Token.scan "data.agree").toOption =
        some [⟨.ident "data", 0⟩, ⟨.dot, 4⟩, ⟨.ident "agree", 5⟩] := by decide +kernel
    rw [← Expression.parse_field hagree]; rfl
  items := _
  items_eq := rfl
  index := _
  index_eq := rfl

theorem reads_pledge : Definition.decode.Reads pledgeDefinition.encode pledgeDefinition := by
  have hempty : object.Reads (.obj []) [] := reads_object ⟨List.nodup_nil, trivial⟩
  have hplain : ∀ view ∈ pledgeDefinition.views, ∀ item ∈ view.items,
      item.defaultValue = none ∧ item.props = [] ∧ item.options = [] := by
    simp [pledgeDefinition]
  refine Definition.reads hempty (reads_list fun view hview => Definition.View.reads ?_)
  refine reads_list fun item hitem => ?_
  obtain ⟨hdefault, hprops, hoptions⟩ := hplain view hview item hitem
  refine Definition.Item.reads ?_ ?_ ?_
  · simp [hdefault]
  · rw [hprops]; exact hempty
  · rw [hoptions]; exact reads_list (by simp)

theorem faithful_pledge : pledgeDefinition.encode.Faithful := Json.faithful_of_readable (by trivial)

theorem read_pledge : Form.read pledgeDefinition.encode.compact = .ok pledge :=
  @read_compact pledge faithful_pledge reads_pledge

end Form

namespace Service.Request

def pledge (agree : Bool) : Request :=
  .write "pledge" { definition := some Form.pledgeDefinition.encode.compact } {} [("agree", .bool agree)]

theorem session_pledge (agree : Bool) :
    (pledge agree).session = .ok (.start .pledge {} [("agree", .bool agree)]) :=
  @session_write .pledge Form.pledgeDefinition.encode.compact _ _ _ _
    (Json.faithful_of_readable ⟨by decide, trivial, trivial⟩)
    (Json.faithful_of_readable ⟨by decide, trivial, trivial, trivial⟩)
    (Json.faithful_of_readable ⟨by decide, trivial, trivial⟩)
    rfl Form.read_pledge trivial trivial ⟨by simp [Fields.names], trivial, trivial⟩ rfl

/-- Without the agreement the first view is blocked. With it, the last view comes next. -/
theorem replies_agree_pledge :
    (∃ next validity : Json, (pledge false).nextView = next.compact ∧
      (pledge false).validateView "ask" = validity.compact ∧
      next.field? "status" = some (.str "blocked") ∧ validity.field? "valid" = some (.bool false)) ∧
    ∃ next data : Json, (pledge true).nextView = next.compact ∧ (pledge true).payload = data.compact ∧
      next.field? "status" = some (.str "ready") ∧ next.field? "data" = some data := by
  have hplace (agree : Bool) : (Session.start .pledge {} [("agree", .bool agree)]).state.currentView = "ask" := by
    cases agree <;> decide +kernel
  have hsome (agree : Bool) : (Session.start .pledge {} [("agree", .bool agree)]).state.currentView ≠ "" := by
    rw [hplace]; decide
  have hstatus (agree : Bool) : ((Session.start .pledge {} [("agree", .bool agree)]).nextViewReply.toOption.bind
      (·.field? "status")).bind Json.str? = some (if agree then "ready" else "blocked") := by
    cases agree <;> decide +kernel
  constructor
  · obtain ⟨next, validity, hnext, htold, -, hchecked, -, hblocked, -⟩ :=
      replies_agree (session_pledge false) (hsome false)
    have hstatus := hstatus false
    rw [hnext] at hstatus
    have hstatus := Json.eq_str_of_bind hstatus
    rw [hplace] at hchecked
    exact ⟨next, validity, htold, hchecked, hstatus, hblocked.1 hstatus⟩
  · obtain ⟨next, validity, hnext, htold, -, -, hsent, -, -, hready, -⟩ :=
      replies_agree (session_pledge true) (hsome true)
    have hstatus := hstatus true
    rw [hnext] at hstatus
    have hstatus := Json.eq_str_of_bind hstatus
    exact ⟨next, _, htold, hsent, hstatus, (hready hstatus).2.1⟩

end Service.Request

end Formwork
