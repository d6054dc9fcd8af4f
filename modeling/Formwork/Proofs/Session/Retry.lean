import Formwork.Proofs.Session.Submit

/-!
# A request that fails can be made again

Messages have no part in what a request comes to: sessions that are the same without them come to the same
(`Journey.prepare_congr`). A validation changes nothing but messages, and so does a host that refuses
fields, so a request that fails leaves the session where it was (`NavigationError.Leaves`). One that was
issued and did not reach the host is issued again as it was (`Journey.fails_without_trace`).
-/

namespace Formwork

/-! ### Sessions without messages -/

namespace Session

/-- A session without messages about items, as if nothing had been published. -/
def forgetErrors (session : Session) : Session :=
  { session with store := { current := { session.state with errors := .empty, revision := 0 } } }

/-- A session without messages, as if nothing had been published. -/
def forgetMessages (session : Session) : Session :=
  { session.forgetErrors with
    store := { current := { session.forgetErrors.state with formErrors := [] } } }

variable {session other : Session} {next : State}

theorem forgetMessages_congr (h : other.forgetErrors = session.forgetErrors) :
    other.forgetMessages = session.forgetMessages := by
  rw [forgetMessages, h]; rfl

theorem forgetErrors_commit (h : next = { session.state with errors := next.errors }) :
    (session.commit next).forgetErrors = session.forgetErrors := by
  rcases session.store.commit_eq next with ⟨hcommit, -⟩ | hcommit
  · rw [commit, hcommit]
  · rw [commit, hcommit, h]; rfl

theorem forgetMessages_commit
    (h : next = { session.state with errors := next.errors, formErrors := next.formErrors }) :
    (session.commit next).forgetMessages = session.forgetMessages := by
  rcases session.store.commit_eq next with ⟨hcommit, -⟩ | hcommit
  · rw [commit, hcommit]
  · rw [commit, hcommit, h]; rfl

theorem forgetErrors_validate (session : Session) (scope : Scope) :
    (session.validate scope).2.forgetErrors = session.forgetErrors :=
  @forgetErrors_commit session (session.validated scope) (Form.replaceMessages_eq _)

theorem forgetMessages_mergeHostErrors (session : Session) (fields : List FieldError) :
    (session.mergeHostErrors fields).forgetMessages = session.forgetMessages := by
  refine @forgetMessages_commit session (session.told fields) ?_
  refine List.foldlRecOn (motive := fun state : State =>
    state = { session.state with errors := state.errors, formErrors := state.formErrors }) fields _ rfl
    fun state hstate error _ => ?_
  rw [tell]
  split
  · rw [hstate]; rfl
  · rw [hstate]; rfl

end Session

/-! ### What a request comes to -/

namespace Journey

variable {journey other : Journey} {request : NavigationRequest} {origin : String}

theorem forgetErrors_begin (journey : Journey) (request : NavigationRequest) :
    (journey.begin request).2.session.forgetErrors = journey.session.forgetErrors := by
  rcases session_begin journey request with hsession | ⟨scope, hsession⟩
  · rw [hsession]
  · rw [hsession, Session.forgetErrors_validate]

theorem check_congr (h : other.session.forgetMessages = journey.session.forgetMessages)
    (origin : String) (action : HostAction) : (other.check origin action).1 = (journey.check origin action).1 ∧
      (other.check origin action).2.session.forgetMessages =
        (journey.check origin action).2.session.forgetMessages := by
  have hvalidate : ∀ scope, (other.session.validate scope).1 = (journey.session.validate scope).1 := fun scope =>
    (congrArg (fun session : Session => (session.validate scope).1) h :)
  have hforget : ∀ scope, (other.session.validate scope).2.forgetMessages =
      (journey.session.validate scope).2.forgetMessages := fun scope => by
    rw [Session.forgetMessages_congr (other.session.forgetErrors_validate scope), h,
      Session.forgetMessages_congr (journey.session.forgetErrors_validate scope)]
  cases action with
  | navigate => exact ⟨hvalidate (.view origin), hforget (.view origin)⟩
  | save => exact ⟨rfl, h⟩
  | submit => exact ⟨hvalidate .all, hforget .all⟩

/-- What a request comes to does not depend on messages. -/
theorem prepare_congr (h : other.session.forgetMessages = journey.session.forgetMessages) :
    (other.prepare request origin).1 = (journey.prepare request origin).1 := by
  have hview : other.session.form.view? origin = journey.session.form.view? origin :=
    (congrArg (fun session : Session => session.form.view? origin) h :)
  have hitem : other.requestedItem request.via = journey.requestedItem request.via :=
    (congrArg (fun session => requestedItem ⟨session, journey.controller⟩ request.via) h :)
  obtain ⟨hfound, hchecked⟩ := check_congr h origin request.action
  have htarget : ∀ view item, (other.check origin request.action).2.session.target? view item =
      (journey.check origin request.action).2.session.target? view item := fun view item =>
    (congrArg (fun session : Session => session.target? view item) hchecked :)
  have hpayload : (other.check origin request.action).2.session.payload =
      (journey.check origin request.action).2.session.payload :=
    (congrArg Session.payload hchecked :)
  have hresolve : ∀ view item,
      ((other.check origin request.action).2.enter .resolvingNext).resolve view item request.action =
        ((journey.check origin request.action).2.enter .resolvingNext).resolve view item request.action := by
    intro view item
    cases hkind : request.action with
    | navigate =>
      rw [hkind] at htarget
      simp only [resolve, enter, htarget]
    | save | submit => simp only [resolve]
  simp only [prepare, hview, hitem, hfound, hresolve]
  split
  · rfl
  split
  · rfl
  split
  · rfl
  split
  · rfl
  · simp only [enter, hpayload]

/-- A request that comes to something is issued under the next ticket. -/
theorem begin_fst (journey : Journey) (request : NavigationRequest) : (journey.begin request).1 =
    (journey.prepare request journey.session.state.currentView).1.map fun hostRequest =>
      ⟨journey.controller.nextTicket, request.action, hostRequest⟩ := by
  let freed : Journey := { journey with controller := journey.controller.cancelFlight }
  have hsame : (freed.prepare request journey.session.state.currentView).1 =
      (journey.prepare request journey.session.state.currentView).1 := prepare_congr rfl
  obtain ⟨phase, hphase⟩ := prepare_controller freed request journey.session.state.currentView
  rw [← hsame]
  simp only [begin]
  change _ = Except.map _ (freed.prepare request _).1
  generalize freed.prepare request _ = prepared at hphase ⊢
  obtain ⟨result, next⟩ := prepared
  cases result with
  | error error => rfl
  | ok hostRequest =>
    have hticket : next.controller.nextTicket = journey.controller.nextTicket := by
      rw [hphase]; exact Controller.nextTicket_cancelFlight
    simp only [hticket, Except.map]

theorem controller_of_issued {pending : PendingNavigation} (h : (journey.begin request).1 = .ok pending) :
    (∃ flight, (journey.begin request).2.controller.flight = some flight ∧ flight.ticket = pending.ticket) ∧
      (journey.begin request).2.controller.nextTicket = pending.ticket + 1 := by
  have hevent : journey.event (.begin request) = .issued pending.ticket := by simp only [event, h]
  have hmoves := begin_moves journey request
  rw [hevent] at hmoves
  generalize pending.ticket = ticket at hmoves ⊢
  generalize (journey.begin request).2.controller = next at hmoves ⊢
  cases hmoves with
  | issued origin action target => exact ⟨⟨_, rfl, rfl⟩, rfl⟩

end Journey

/-! ### What a request that fails leaves behind -/

/-- What a session is after a request that failed with an error: the same up to messages about items,
or also up to those about the form, or altogether the same. -/
def NavigationError.Leaves (error : NavigationError) (before after : Session) : Prop :=
  match error with
  | .blocked _ | .noNextView _ => after.forgetErrors = before.forgetErrors
  | .host (.validation _) => after.forgetMessages = before.forgetMessages
  | .host (.transport _) | .unknownView _ | .unknownAction _ | .cancelled => after = before

/-- States with the same answers, flags, choices and views. -/
structure State.SamePlace (next state : State) : Prop where
  values : next.values = state.values
  visibility : next.visibility = state.visibility
  readOnly : next.readOnly = state.readOnly
  choices : next.choices = state.choices
  currentView : next.currentView = state.currentView
  completedViews : next.completedViews = state.completedViews

theorem Session.samePlace_of_forgetMessages {session other : Session}
    (h : other.forgetMessages = session.forgetMessages) : other.state.SamePlace session.state := by
  have hstate : other.forgetMessages.state = session.forgetMessages.state := congrArg Session.state h
  exact ⟨(congrArg State.values hstate :), (congrArg State.visibility hstate :),
    (congrArg State.readOnly hstate :), (congrArg State.choices hstate :),
    (congrArg State.currentView hstate :), (congrArg State.completedViews hstate :)⟩

theorem NavigationError.Leaves.samePlace {error : NavigationError} {before after : Session}
    (h : error.Leaves before after) : after.state.SamePlace before.state := by
  refine Session.samePlace_of_forgetMessages ?_
  cases error with
  | blocked | noNextView => exact Session.forgetMessages_congr h
  | host error =>
    cases error with
    | transport => rw [Leaves] at h; rw [h]
    | validation => exact h
  | unknownView | unknownAction | cancelled => rw [Leaves] at h; rw [h]

namespace Journey

variable {journey other : Journey} {request : NavigationRequest} {error : NavigationError}

theorem forgetErrors_check (journey : Journey) (origin : String) (action : HostAction) :
    (journey.check origin action).2.session.forgetErrors = journey.session.forgetErrors := by
  rcases session_check journey origin action with hsession | ⟨scope, hsession⟩
  · rw [hsession]
  · rw [hsession, Session.forgetErrors_validate]

theorem eq_unknownAction_of_requestedItem {via : Option String}
    (h : journey.requestedItem via = .error error) : ∃ id, error = .unknownAction id := by
  simp only [requestedItem] at h
  split at h
  · split at h
    · cases h
    · cases h; exact ⟨_, rfl⟩
  · cases h

theorem eq_noNextView_of_resolve {view : Form.View} {item : Option Form.Item} {action : HostAction}
    (h : journey.resolve view item action = .error error) : error = .noNextView view.id := by
  cases action with
  | navigate =>
    simp only [resolve] at h
    split at h
    · cases h
    · cases h; rfl
  | save | submit => cases h

theorem prepare_leaves {origin : String} (h : (journey.prepare request origin).1 = .error error) :
    error.Leaves journey.session (journey.prepare request origin).2.session := by
  have hcheck := forgetErrors_check journey origin request.action
  simp only [prepare] at h ⊢
  split
  · rename_i hview
    simp only [hview] at h
    cases h; exact rfl
  rename_i view hview
  simp only [hview] at h
  split
  · rename_i hitem
    simp only [hitem] at h
    obtain ⟨id, rfl⟩ := eq_unknownAction_of_requestedItem hitem
    cases h; exact rfl
  rename_i item hitem
  simp only [hitem] at h
  split
  · rename_i hfound
    rw [if_pos hfound] at h
    cases h; exact hcheck
  rename_i hfound
  rw [if_neg hfound] at h
  split
  · rename_i hresolve
    simp only [hresolve] at h
    cases h
    rw [eq_noNextView_of_resolve hresolve]
    exact hcheck
  · rename_i hresolve
    simp only [hresolve] at h
    cases h

theorem begin_leaves (h : (journey.begin request).1 = .error error) :
    error.Leaves journey.session (journey.begin request).2.session := by
  let freed : Journey := { journey with controller := journey.controller.cancelFlight }
  let origin := journey.session.state.currentView
  cases hresult : (freed.prepare request origin).1 with
  | error failure =>
    have hprepare : freed.prepare request origin = (.error failure, (freed.prepare request origin).2) := by
      rw [← hresult]
    obtain ⟨hbegin, hsession⟩ := begin_of_unprepared hprepare
    obtain rfl : failure = error := Except.error.inj (hbegin.symm.trans h)
    rw [hsession]
    exact prepare_leaves hresult
  | ok hostRequest =>
    have hprepare : freed.prepare request origin = (.ok hostRequest, (freed.prepare request origin).2) := by
      rw [← hresult]
    obtain ⟨⟨pending, hpending, -⟩, -⟩ := begin_of_prepared hprepare
    exact nomatch hpending.symm.trans h

theorem land_leaves {flight : Flight} {answer : HostAnswer} (h : (journey.land flight answer).1 = .error error) :
    error.Leaves journey.session (journey.land flight answer).2.session := by
  cases answer with
  | error hostError =>
    cases h
    cases hostError with
    | transport reason => exact rfl
    | validation fields => exact Session.forgetMessages_mergeHostErrors _ fields
  | ok view =>
    simp only [land] at h ⊢
    split at h
    · cases h
    · rename_i hview
      cases h
      rw [if_neg hview]
      exact rfl

theorem complete_leaves {ticket : Nat} {answer : HostAnswer}
    (h : (journey.complete ticket answer).1 = .error error) :
    error.Leaves journey.session (journey.complete ticket answer).2.session := by
  by_cases hunderWay : ∃ flight, journey.controller.flight = some flight ∧ flight.ticket = ticket
  · obtain ⟨flight, hflight, rfl⟩ := hunderWay
    have hland := complete_of_flight answer hflight
    rw [hland] at h ⊢
    exact land_leaves h
  · have hnone : ∀ flight, journey.controller.flight = some flight → flight.ticket ≠ ticket :=
      fun flight hflight hticket => hunderWay ⟨flight, hflight, hticket⟩
    have hcomplete := complete_of_no_flight answer hnone
    rw [hcomplete] at h ⊢
    cases h
    exact rfl

/-- Where the host cannot be reached, the request that was issued is over and nothing else has changed. -/
theorem complete_transport {pending : PendingNavigation} (h : (journey.begin request).1 = .ok pending)
    (reason : String) :
    let failed := (journey.begin request).2.complete pending.ticket (.error (.transport reason))
    failed.1 = .error (.host (.transport reason)) ∧
      failed.2.session = (journey.begin request).2.session ∧
      failed.2.controller.nextTicket = pending.ticket + 1 := by
  obtain ⟨⟨flight, hflight, hticket⟩, hnext⟩ := controller_of_issued h
  have hland := complete_of_flight (.error (.transport reason)) hflight
  rw [hticket] at hland
  simp only [hland, land, enter, hnext, true_and]

/-- A request that was issued is issued again from a session that differs in messages only. -/
theorem begin_again {pending : PendingNavigation} (h : (journey.begin request).1 = .ok pending)
    (hsession : other.session.forgetMessages = journey.session.forgetMessages) :
    (other.begin request).1 =
      .ok { pending with ticket := other.controller.nextTicket } := by
  have hview := (Session.samePlace_of_forgetMessages hsession).currentView
  rw [begin_fst] at h
  rw [begin_fst, hview, prepare_congr hsession]
  generalize (journey.prepare request journey.session.state.currentView).1 = prepared at h ⊢
  cases prepared with
  | error error => cases h
  | ok hostRequest => cases h; rfl

/-- What fails leaves the session where it was, and what did not reach the host can be asked again. -/
theorem fails_without_trace (journey : Journey) :
    (∀ request, (journey.begin request).2.session.forgetErrors = journey.session.forgetErrors) ∧
    (∀ request error, (journey.begin request).1 = .error error →
      error.Leaves journey.session (journey.begin request).2.session ∧
      (journey.begin request).2.session.state.SamePlace journey.session.state) ∧
    (∀ ticket answer error, (journey.complete ticket answer).1 = .error error →
      error.Leaves journey.session (journey.complete ticket answer).2.session ∧
      (journey.complete ticket answer).2.session.state.SamePlace journey.session.state) ∧
    (∀ request pending reason, (journey.begin request).1 = .ok pending →
      let failed := (journey.begin request).2.complete pending.ticket (.error (.transport reason))
      failed.1 = .error (.host (.transport reason)) ∧
      ∃ again, (failed.2.begin request).1 = .ok again ∧ again.action = pending.action ∧
        again.request = pending.request ∧ pending.ticket < again.ticket) := by
  refine ⟨journey.forgetErrors_begin, fun request error h => ?_, fun ticket answer error h => ?_, ?_⟩
  · exact ⟨begin_leaves h, (begin_leaves h).samePlace⟩
  · exact ⟨complete_leaves h, (complete_leaves h).samePlace⟩
  · intro request pending reason h failed
    obtain ⟨hfailed, hsession, hnext⟩ := complete_transport h reason
    have hforget : failed.2.session.forgetMessages = journey.session.forgetMessages := by
      rw [hsession]
      exact Session.forgetMessages_congr (journey.forgetErrors_begin request)
    refine ⟨hfailed, _, begin_again h hforget, rfl, rfl, ?_⟩
    show pending.ticket < failed.2.controller.nextTicket
    rw [hnext]
    exact Nat.lt_succ_self _

/-- The missing consent stops a submission, which replaces the complaint of the host and moves no answer.
A request to save that does not reach the host is made again as it was, under another ticket. -/
theorem fails_without_trace_consent :
    let journey := consentJourney [("age", .str "7")]
    let submitted := journey.begin ⟨.submit, none⟩
    (∃ error, submitted.1 = .error error ∧ submitted.2.session.state.SamePlace journey.session.state ∧
      journey.session.state.errors.get? "consent" = some ["Expired"] ∧
      submitted.2.session.state.errors.get? "consent" = some ["Please agree"]) ∧
    ∃ pending again, (journey.begin ⟨.save, none⟩).1 = .ok pending ∧ pending.ticket = 1 ∧
      (((journey.begin ⟨.save, none⟩).2.complete 1 (.error (.transport "timeout"))).2.begin ⟨.save, none⟩).1 =
        .ok again ∧ again.request = pending.request ∧ 1 < again.ticket := by
  intro journey submitted
  obtain ⟨-, hbegin, -, hretry⟩ := fails_without_trace journey
  refine ⟨?_, ?_⟩
  · have hrefused : submitted.1.toOption.isSome = false := by decide +kernel
    cases h : submitted.1 with
    | ok pending => rw [h] at hrefused; cases hrefused
    | error error => exact ⟨error, rfl, (hbegin _ _ h).2, by decide +kernel, by decide +kernel⟩
  · have hissued : (journey.begin ⟨.save, none⟩).1.toOption.map (·.ticket) = some 1 := by decide +kernel
    cases h : (journey.begin ⟨.save, none⟩).1 with
    | error error => rw [h] at hissued; cases hissued
    | ok pending =>
      have hticket : pending.ticket = 1 := by rw [h] at hissued; exact Option.some.inj hissued
      obtain ⟨-, again, hagain, -, hrequest, hlt⟩ := hretry _ _ "timeout" h
      rw [hticket] at hagain hlt
      exact ⟨pending, again, rfl, hticket, hagain, hrequest, hlt⟩

end Journey
end Formwork
