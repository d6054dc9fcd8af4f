import Mathlib.Algebra.Order.BigOperators.Group.Finset
import Formwork.Command.Walk
import Formwork.Proofs.Session.Editing
import Formwork.Proofs.Session.Target

/-!
# Walks

A walk goes on as long as the host confirms a request to navigate, and each request leaves a view of the form.
It is given up only after more requests than it has views to leave twice, so one of them was left a third time.
No request changes an answer or what is shown. Where no view has a rule for what comes next, the view that
follows is the next one that is shown, so a walk that nothing blocks goes down the list of views once and
submits (`Command.Walk.stops_for_loops`).
-/

namespace Formwork

/-- In a list longer than some ids repeated `bound` times, one of the ids stands more often. -/
theorem exists_lt_count {names ids : List String} {bound : Nat} (hmem : ∀ name ∈ names, name ∈ ids)
    (hlength : ids.length * bound < names.length) : ∃ id ∈ ids, bound < names.count id := by
  have hcount : ∑ id ∈ ids.toFinset, Multiset.count id ↑names = names.length :=
    Multiset.sum_count_eq_card fun name hname => List.mem_toFinset.2 (hmem name hname)
  have hbound : ∑ _id ∈ ids.toFinset, bound ≤ ids.length * bound := by
    rw [Finset.sum_const_nat fun _ _ => rfl]
    exact Nat.mul_le_mul_right bound ids.toFinset_card_le
  obtain ⟨id, hid, hlt⟩ := Finset.exists_lt_of_sum_lt ((hbound.trans_lt hlength).trans_eq hcount.symm)
  exact ⟨id, List.mem_toFinset.1 hid, by simpa using hlt⟩

namespace Session

variable {session other : Session} {scope : Scope} {view : Form.View}

/-- A session without messages and without its place in the form, as if nothing had been published. -/
def forgetPlace (session : Session) : Session :=
  { session.forgetMessages with
    store := { current := { session.forgetMessages.state with currentView := "", completedViews := .empty } } }

theorem forgetPlace_congr (h : other.forgetErrors = session.forgetErrors) :
    other.forgetPlace = session.forgetPlace := by
  rw [forgetPlace, forgetMessages_congr h]; rfl

theorem forgetPlace_arrive (flight : Flight) (target : String) :
    (session.commit (Journey.arrive session.state flight target)).forgetPlace = session.forgetPlace := by
  rcases session.store.commit_eq (Journey.arrive session.state flight target) with ⟨hcommit, -⟩ | hcommit
  · rw [commit, hcommit]
  · rw [commit, hcommit]; rfl

theorem validate_of_forgetPlace (h : other.forgetPlace = session.forgetPlace) (scope : Scope) :
    (other.validate scope).1 = (session.validate scope).1 :=
  (congrArg (fun session : Session => (session.validate scope).1) h :)

theorem payload_of_forgetPlace (h : other.forgetPlace = session.forgetPlace) : other.payload = session.payload :=
  (congrArg payload h :)

theorem form_of_forgetPlace (h : other.forgetPlace = session.forgetPlace) : other.form = session.form :=
  (congrArg form h :)

/-- A screen shows the view that the session is at. -/
theorem viewId_of_forgetPlace (h : other.forgetPlace = session.forgetPlace) (hview : view ∈ session.form.views)
    (hcurrent : view.id = other.state.currentView) : (Screen.ofSession other).viewId = view.id := by
  have hfound : other.form.view? other.state.currentView = some view := by
    rw [form_of_forgetPlace h]
    exact Form.view?_eq_some_iff.2 ⟨hview, hcurrent⟩
  simp only [Screen.ofSession, hfound, Option.getD_some]

end Session

namespace Journey

variable {journey : Journey} {request : NavigationRequest} {hostRequest : HostRequest} {origin target : String}
  {pending : PendingNavigation} {error : NavigationError}

theorem navigate_of_issued (h : (journey.begin request).1 = .ok pending) (host : HostRequest → HostAnswer) :
    journey.navigate request host =
      (journey.begin request).2.complete pending.ticket (host pending.request) := by
  rw [navigate]
  generalize journey.begin request = begun at h ⊢
  obtain ⟨result, begun⟩ := begun
  cases h
  rfl

theorem navigate_of_refused (h : (journey.begin request).1 = .error error) (host : HostRequest → HostAnswer) :
    journey.navigate request host = (.error error, (journey.begin request).2) := by
  rw [navigate]
  generalize journey.begin request = begun at h ⊢
  obtain ⟨result, begun⟩ := begun
  cases h
  rfl

theorem currentView_of_prepare (h : (journey.prepare request origin).1 = .ok hostRequest) :
    hostRequest.currentView = origin ∧ ∃ view ∈ journey.session.form.views, view.id = origin := by
  simp only [prepare] at h
  split at h
  · cases h
  rename_i view hfound
  obtain ⟨hview, hid⟩ := Form.view?_eq_some_iff.1 hfound
  split at h
  · cases h
  split at h
  · cases h
  split at h
  · cases h
  · cases h
    exact ⟨rfl, view, hview, hid⟩

/-- A request comes from the view that the session is at. -/
theorem origin_of_begin (h : (journey.begin request).1 = .ok pending) :
    pending.request.currentView = journey.session.state.currentView ∧
      ∃ view ∈ journey.session.form.views, view.id = pending.request.currentView := by
  rw [begin_fst] at h
  cases hprepare : (journey.prepare request journey.session.state.currentView).1 with
  | error error => rw [hprepare] at h; cases h
  | ok hostRequest =>
    rw [hprepare] at h
    cases h
    obtain ⟨hcurrent, view, hview, hid⟩ := currentView_of_prepare hprepare
    exact ⟨hcurrent, view, hview, hid.trans hcurrent.symm⟩

/-- A request that the host answers with a view of the form leads there and changes nothing but the place. -/
theorem complete_of_view (h : (journey.begin request).1 = .ok pending)
    (htarget : (journey.session.form.view? target).isSome = true) :
    ∃ state next, (journey.begin request).2.complete pending.ticket (.ok target) = (.ok state, next) ∧
      next.session.state.currentView = target ∧
      next.session.forgetPlace = journey.session.forgetPlace := by
  have hform : (journey.begin request).2.session.form = journey.session.form :=
    (congrArg Session.form (journey.forgetErrors_begin request) :)
  obtain ⟨⟨flight, hflight, hticket⟩, -⟩ := controller_of_issued h
  rw [← hticket, complete_of_flight _ hflight]
  simp only [land, hform, htarget, if_true]
  refine ⟨_, _, rfl, ?_, ?_⟩
  · exact Session.currentView_commit ..
  · exact (Session.forgetPlace_arrive ..).trans (Session.forgetPlace_congr (journey.forgetErrors_begin request))

end Journey

namespace Command.Walk

variable {journey next : Journey} {request : HostRequest} {format : Format} {views changes : Nat}

/-- The host of a walk agrees to everything. -/
def confirm (request : HostRequest) : HostAnswer := .ok request.confirmed

/-- The request to navigate that the host confirms, if it comes to that, and the journey after it. -/
def step? (journey : Journey) : Option (HostRequest × Journey) :=
  match (journey.begin { action := .navigate }).1, journey.navigate { action := .navigate } confirm with
  | .ok pending, (.ok _, next) => some (pending.request, next)
  | _, _ => none

/-- The requests to navigate that the host confirms while a number of views at most is printed. -/
def requests : Nat → Journey → List HostRequest
  | 0, _ => []
  | views + 1, journey =>
    match step? journey with
    | some (request, next) => request :: requests views next
    | none => []

theorem step?_eq_some_iff : step? journey = some (request, next) ↔
    ∃ pending state, (journey.begin { action := .navigate }).1 = .ok pending ∧ pending.request = request ∧
      journey.navigate { action := .navigate } confirm = (.ok state, next) := by
  rw [step?]
  generalize (journey.begin { action := .navigate }).1 = result
  obtain ⟨reached, after⟩ := journey.navigate { action := .navigate } confirm
  cases result with
  | error error => simp
  | ok pending => cases reached with
    | error error => simp
    | ok state => simp

theorem go_of_step (h : step? journey = some (request, next)) : go format (views + 1) journey =
    (go format views next).after (format.print (.ofSession journey.session)) := by
  obtain ⟨pending, state, -, -, hnavigate⟩ := step?_eq_some_iff.1 h
  change journey.navigate { action := .navigate } (fun request => .ok request.confirmed) = _ at hnavigate
  rw [go, hnavigate]

/-- The last view of a walk is printed before the submission. -/
theorem go_of_no_next {view : String} (h : (journey.begin { action := .navigate }).1 = .error (.noNextView view)) :
    go format (views + 1) journey =
      (submit (journey.begin { action := .navigate }).2).after (format.print (.ofSession journey.session)) := by
  rw [go, Journey.navigate_of_refused h]

/-- A walk does not give up before it has run out of views to print. -/
theorem failure_go_of_no_step (h : step? journey = none) :
    (go format (views + 1) journey).failure ≠ some (.endless changes) := by
  have hstop (error : NavigationError) (text : String) :
      ((stop error).after text).failure ≠ some (.endless changes) := by
    intro hfailure
    cases hfailure
  rw [go]
  split
  · rename_i state after hnavigate
    exfalso
    cases hbegin : (journey.begin { action := .navigate }).1 with
    | error error => exact nomatch (Journey.navigate_of_refused hbegin _).symm.trans hnavigate
    | ok pending => exact nomatch h.symm.trans (step?_eq_some_iff.2 ⟨pending, state, hbegin, rfl, hnavigate⟩)
  · rename_i journey
    rw [submit]
    split
    · exact hstop _ _
    · split
      · exact hstop _ _
      · intro hfailure
        cases hfailure
  · exact hstop _ _

theorem step?_spec (h : step? journey = some (request, next)) :
    (∃ view ∈ journey.session.form.views, view.id = request.currentView) ∧
      next.session.form = journey.session.form := by
  obtain ⟨pending, state, hbegin, rfl, hnavigate⟩ := step?_eq_some_iff.1 h
  refine ⟨(Journey.origin_of_begin hbegin).2, ?_⟩
  have hform := (Journey.perform_changes (journey.begin { action := .navigate }).2
    (.complete pending.ticket (confirm pending.request))).form
  rw [Journey.perform, ← Journey.navigate_of_issued hbegin confirm, hnavigate] at hform
  exact hform.trans (congrArg Session.form (journey.forgetErrors_begin _) :)

/-- A request that the host confirms leaves a view of the form. -/
theorem exists_view_of_mem_requests (h : request ∈ requests views journey) :
    ∃ view ∈ journey.session.form.views, view.id = request.currentView := by
  induction views generalizing journey with
  | zero => cases h
  | succ views ih =>
    rw [requests] at h
    split at h
    · rename_i first next hstep
      obtain ⟨hview, hform⟩ := step?_spec hstep
      rcases List.mem_cons.1 h with rfl | h
      · exact hview
      · rw [← hform]
        exact ih h
    · cases h

/-- A walk is given up if the host confirms one request after the other until it has run out of views to
print. -/
theorem failure_go_eq_endless_iff : (go format views journey).failure = some (.endless changes) ↔
    (requests views journey).length = views ∧ changes = maxChanges journey.session.form := by
  induction views generalizing journey with
  | zero => simp [go, requests, eq_comm]
  | succ views ih =>
    rw [requests]
    cases hstep : step? journey with
    | none => simp [failure_go_of_no_step hstep]
    | some found =>
      obtain ⟨request, next⟩ := found
      rw [go_of_step hstep, ← (step?_spec hstep).2]
      simp only [Outcome.after, ih, List.length_cons, Nat.add_right_cancel_iff]

/-- A walk that is given up has left one of the views a third time. -/
theorem exists_left_thrice {session : Session} (h : (walk session format).failure = some (.endless changes)) :
    changes = 2 * session.form.views.length ∧ ∃ view ∈ session.form.views, 3 ≤
      ((requests (maxChanges session.form + 1) (.ofSession session)).map (·.currentView)).count view.id := by
  obtain ⟨hlength, hchanges⟩ := failure_go_eq_endless_iff.1 h
  refine ⟨hchanges.trans (Nat.mul_comm ..), ?_⟩
  have hmem : ∀ name ∈ (requests (maxChanges session.form + 1) (.ofSession session)).map (·.currentView),
      name ∈ session.form.views.map (·.id) := by
    intro name hname
    obtain ⟨request, hrequest, rfl⟩ := List.mem_map.1 hname
    obtain ⟨view, hview, hid⟩ := exists_view_of_mem_requests hrequest
    exact List.mem_map.2 ⟨view, hview, hid⟩
  have hmany : (session.form.views.map (·.id)).length * 2 <
      ((requests (maxChanges session.form + 1) (.ofSession session)).map (·.currentView)).length := by
    rw [List.length_map, List.length_map, hlength]
    exact Nat.lt_succ_self _
  obtain ⟨id, hid, hcount⟩ := exists_lt_count hmem hmany
  obtain ⟨view, hview, rfl⟩ := List.mem_map.1 hid
  exact ⟨view, hview, hcount⟩

/-! ### Forms without rules for what comes next -/

/-- What a walk prints that comes to some sessions and submits from the last one. -/
def transcript (format : Format) (visited : List Session) (data : Fields Json) : String :=
  String.join (visited.map fun visit => format.print (.ofSession visit)) ++
    ("Submitted:\n" ++ (Json.obj data).pretty ++ "\n")

theorem transcript_cons {session : Session} {visited : List Session} {data : Fields Json} :
    transcript format (session :: visited) data =
      format.print (.ofSession session) ++ transcript format visited data := by
  rw [transcript, List.map_cons, String.join_cons, String.append_assoc]; rfl

section

variable {session : Session}
  (hvalid : ∀ scope, (session.validate scope).1 = .empty)
  (hsame : journey.session.forgetPlace = session.forgetPlace)
include hvalid hsame

/-- From a view of the form the answers are submitted. -/
theorem submit_of_valid (hview : (session.form.view? journey.session.state.currentView).isSome = true) :
    submit journey = { stdout := "Submitted:\n" ++ (Json.obj session.payload).pretty ++ "\n" } := by
  let freed : Journey := { journey with controller := journey.controller.cancelFlight }
  have hnone : (journey.session.validate .all).1 = .empty :=
    (Session.validate_of_forgetPlace hsame _).trans (hvalid _)
  have hplace : (freed.session.form.view? journey.session.state.currentView).isSome = true := by
    rw [← Session.form_of_forgetPlace hsame] at hview
    exact hview
  have hvia : freed.NamesAction { action := .submit } := fun _ hnamed => nomatch hnamed
  rcases Journey.prepare_submit hplace rfl hvia with ⟨-, hprepare⟩ | ⟨hsome, -⟩
  · obtain ⟨⟨pending, hpending, hrequest⟩, -⟩ := Journey.begin_of_prepared hprepare
    have hconfirmed : pending.request.confirmed = journey.session.state.currentView := by rw [hrequest]; rfl
    have hdata : pending.request.data = session.payload := by
      rw [hrequest]
      exact (Session.payload_validate ..).trans (Session.payload_of_forgetPlace hsame)
    obtain ⟨state, next, hcomplete, -⟩ := Journey.complete_of_view hpending hplace
    rw [submit]
    generalize journey.begin { action := .submit } = begun at hpending hcomplete ⊢
    obtain ⟨result, begun⟩ := begun
    cases hpending
    simp only [hconfirmed, hcomplete, hdata]
  · exact absurd hnone hsome

section

variable {before rest others : List Form.View} {start following : Form.View}
  (hviews : session.form.views = before ++ start :: rest) (hrule : start.nextView = none)
  (hcurrent : start.id = journey.session.state.currentView)
include hviews hrule hcurrent

/-- A view with nothing to say about what comes next is followed by the first one behind it that is shown. -/
theorem begin_of_no_rule : (journey.begin { action := .navigate }).1 =
    match (rest.filter session.shows).head? with
    | some following =>
      .ok ⟨journey.controller.nextTicket, .navigate, start.id, session.payload, some following.id⟩
    | none => .error (.noNextView start.id) := by
  have hstart : start ∈ session.form.views := by rw [hviews]; simp
  have hresolves : journey.Resolves { action := .navigate } start none := by
    refine ⟨?_, hcurrent, rfl, by simp, ?_⟩
    · rw [Session.form_of_forgetPlace hsame]
      exact hstart
    · exact (Session.validate_of_forgetPlace hsame _).trans (hvalid _)
  have htarget : journey.session.target? start none = ((rest.filter session.shows).head?).map (·.id) := by
    have hfollowing : journey.session.following? start = session.following? start :=
      (congrArg (fun session : Session => session.following? start) hsame :)
    rw [Session.target?, hrule, List.head?_filter, ← Form.drop_index hviews]
    exact hfollowing
  have hbegin := Journey.begin_of_resolves rfl hresolves
  rw [htarget, Session.payload_validate, Session.payload_of_forgetPlace hsame] at hbegin
  rw [hbegin]
  cases (rest.filter session.shows).head? with
  | none => rfl
  | some following => rfl

theorem step_of_no_rule (hshown : rest.filter session.shows = following :: others) :
    ∃ request after, step? journey = some (request, after) ∧
      after.session.state.currentView = following.id ∧
      after.session.forgetPlace = session.forgetPlace := by
  have hbegin := begin_of_no_rule hvalid hsame hviews hrule hcurrent
  rw [hshown] at hbegin
  have hmem : following ∈ session.form.views := by
    have hrest : following ∈ rest := (List.mem_filter.1 (hshown ▸ List.mem_cons_self)).1
    rw [hviews]
    simp [hrest]
  have htarget : (journey.session.form.view? following.id).isSome = true := by
    rw [Session.form_of_forgetPlace hsame]
    exact Form.isSome_view? hmem
  obtain ⟨state, after, hcomplete, hplace, hforget⟩ := Journey.complete_of_view hbegin htarget
  have hnavigate := (Journey.navigate_of_issued hbegin confirm).trans hcomplete
  exact ⟨_, after, step?_eq_some_iff.2 ⟨_, state, hbegin, rfl, hnavigate⟩, hplace, hforget.trans hsame⟩

theorem go_of_last (hshown : rest.filter session.shows = []) : go format (views + 1) journey =
    { stdout := transcript format [journey.session] session.payload } := by
  have hstart : start ∈ session.form.views := by rw [hviews]; simp
  have hbegin := begin_of_no_rule hvalid hsame hviews hrule hcurrent
  rw [hshown] at hbegin
  have hasked : (journey.begin { action := .navigate }).2.session.forgetPlace = session.forgetPlace :=
    (Session.forgetPlace_congr (journey.forgetErrors_begin _)).trans hsame
  have hplace : (session.form.view? (journey.begin { action := .navigate }).2.session.state.currentView).isSome =
      true := by
    rw [journey.currentView_begin, ← hcurrent]
    exact Form.isSome_view? hstart
  rw [go_of_no_next hbegin, submit_of_valid hvalid hasked hplace, transcript_cons]
  rfl

end

/-- A walk that nothing blocks goes from its view to the views behind it that are shown, and submits. -/
theorem go_of_no_rules (hrules : ∀ view ∈ session.form.views, view.nextView = none)
    {before rest shown : List Form.View} {start : Form.View}
    (hviews : session.form.views = before ++ start :: rest) (hshown : rest.filter session.shows = shown)
    (hcurrent : start.id = journey.session.state.currentView) (hroom : shown.length < views) :
    ∃ visited : List Session,
      visited.map (fun visit => (Screen.ofSession visit).viewId) = (start :: shown).map (·.id) ∧
      (∀ visit ∈ visited, visit.forgetPlace = session.forgetPlace) ∧
      go format views journey = { stdout := transcript format visited session.payload } := by
  -- the induction is on the views that are still to be printed
  induction shown generalizing views journey before rest start with
  | nil =>
    obtain ⟨views, rfl⟩ := Nat.exists_eq_add_one_of_ne_zero (Nat.ne_zero_of_lt hroom)
    have hstart : start ∈ session.form.views := by rw [hviews]; simp
    have hview := Session.viewId_of_forgetPlace hsame hstart hcurrent
    refine ⟨[journey.session], by simp [hview], by simpa using hsame, ?_⟩
    exact go_of_last hvalid hsame hviews (hrules start hstart) hcurrent hshown
  | cons following others ih =>
    obtain ⟨views, rfl⟩ := Nat.exists_eq_add_one_of_ne_zero (Nat.ne_zero_of_lt hroom)
    have hstart : start ∈ session.form.views := by rw [hviews]; simp
    have hview := Session.viewId_of_forgetPlace hsame hstart hcurrent
    obtain ⟨request, after, hstep, hplace, hforget⟩ :=
      step_of_no_rule hvalid hsame hviews (hrules start hstart) hcurrent hshown
    obtain ⟨between, behind, rfl, -, -, hothers⟩ := List.filter_eq_cons_iff.1 hshown
    have hsplit : session.form.views = (before ++ start :: between) ++ following :: behind := by
      rw [hviews]; simp
    obtain ⟨visited, hids, hvisited, hgo⟩ :=
      ih hforget hsplit hothers hplace.symm (Nat.lt_of_succ_lt_succ hroom)
    refine ⟨journey.session :: visited, ?_, ?_, ?_⟩
    · rw [List.map_cons, List.map_cons, hids, hview]
    · exact List.forall_mem_cons.2 ⟨hsame, hvisited⟩
    · rw [go_of_step hstep, hgo, transcript_cons]; rfl

end

/-- A walk is given up only after some view was left three times: it was where a request to navigate came from
that the host confirmed. Where no view has a rule for what comes next and no validation finds anything, a walk
prints the view that the session is at, then the views behind it that are shown, one after the other, and
submits. The sessions that it prints differ in nothing but messages and their place. -/
theorem stops_for_loops (session : Session) (format : Format) :
    (∀ changes, (walk session format).failure = some (.endless changes) →
      changes = 2 * session.form.views.length ∧ ∃ view ∈ session.form.views, 3 ≤
        ((requests (maxChanges session.form + 1) (.ofSession session)).map (·.currentView)).count view.id) ∧
    ∀ before start rest, session.form.views = before ++ start :: rest → start.id = session.state.currentView →
      (∀ view ∈ session.form.views, view.nextView = none) → (∀ scope, (session.validate scope).1 = .empty) →
      ∃ visited : List Session,
        visited.map (fun visit => (Screen.ofSession visit).viewId) =
          (start :: rest.filter session.shows).map (·.id) ∧
        ((start :: rest.filter session.shows).map (·.id)).Nodup ∧
        (∀ visit ∈ visited, visit.forgetPlace = session.forgetPlace) ∧
        walk session format = { stdout := transcript format visited session.payload } := by
  refine ⟨fun changes h => exists_left_thrice h, fun before start rest hviews hcurrent hrules hvalid => ?_⟩
  have hroom : (rest.filter session.shows).length < maxChanges session.form + 1 := by
    have hlength : (rest.filter session.shows).length ≤ rest.length := List.length_filter_le ..
    rw [maxChanges, hviews, List.length_append, List.length_cons]
    omega
  have hsame : (Journey.ofSession session).session.forgetPlace = session.forgetPlace := rfl
  obtain ⟨visited, hids, hvisited, hgo⟩ := go_of_no_rules hvalid hsame hrules hviews rfl hcurrent hroom
  have hsublist : (start :: rest.filter session.shows).Sublist session.form.views := by
    rw [hviews]
    exact (List.filter_sublist.cons_cons start).trans (List.sublist_append_right ..)
  exact ⟨visited, hids, session.form.nodup_view_ids.sublist (hsublist.map _), hvisited, hgo⟩

/-- A view that names itself is left again and again. Two views without rules are printed one after the other. -/
theorem stops_for_loops_route :
    let looping := Session.start Journey.routeForm {} [("next", .str "start")]
    let straight := Session.start Form.pages {} []
    ((walk looping .text).failure = some (.endless 6) ∧ ∃ view ∈ Journey.routeForm.views, 3 ≤
      ((requests 7 (.ofSession looping)).map (·.currentView)).count view.id) ∧
    ∃ visited : List Session, visited.map (fun visit => (Screen.ofSession visit).viewId) = ["first", "second"] ∧
      walk straight .text = { stdout := transcript .text visited straight.payload } := by
  intro looping straight
  constructor
  · have hlength : (requests 7 (.ofSession looping)).length = 7 := by decide +kernel
    have hfailure : (walk looping .text).failure = some (.endless 6) :=
      failure_go_eq_endless_iff.2 ⟨hlength, rfl⟩
    exact ⟨hfailure, ((stops_for_loops looping .text).1 6 hfailure).2⟩
  · let first := Form.pages.views.get ⟨0, by decide⟩
    let second := Form.pages.views.get ⟨1, by decide⟩
    have hrules : ∀ view ∈ Form.pages.views, view.nextView = none := by simp [Form.pages]
    have hitems : ∀ view ∈ Form.pages.views, view.items = [] := by simp [Form.pages]
    have hvalid : ∀ scope, (straight.validate scope).1 = .empty := by
      intro scope
      refine NameMap.eq_empty_iff.2 fun name => Bool.eq_false_iff.2 fun hfound => ?_
      obtain ⟨view, hview, -, item, hitem, -⟩ := Form.has_validate.1 hfound
      rw [hitems view hview] at hitem
      cases hitem
    obtain ⟨visited, hids, -, -, hwalk⟩ :=
      (stops_for_loops straight .text).2 [] first [second] rfl (by decide +kernel) hrules hvalid
    exact ⟨visited, hids.trans (by decide +kernel), hwalk⟩

end Command.Walk
end Formwork
