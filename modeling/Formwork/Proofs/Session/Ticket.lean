import Mathlib.Data.List.Induction
import Mathlib.Data.List.Nodup
import Formwork.Proofs.Pass.Evaluation
import Formwork.Proofs.Session.Operation

/-!
# The last request wins

`Controller.Moves` says all that an operation can do to a controller. From it follows which request
is under way after a list of operations (`Journey.UnderWay`): the one that was issued last, if nothing
since has answered it, begun another one or given it up. Only that one can be completed, and since no
ticket is issued twice, none is completed twice (`Journey.last_request_wins`).
-/

namespace Formwork

namespace Journey

/-! ### The past of a journey -/

namespace Event

/-- The ticket that is issued. -/
def issued? : Event → Option Nat
  | issued ticket => some ticket
  | _ => none

/-- Nothing comes of the operation for the request under way. -/
def Idle : Event → Prop
  | edited | discarded _ => True
  | issued _ | refused | accepted _ | givenUp => False

/-- The operation cancels the request under way: it begins another one, in vain or not, or gives up. -/
def Supersedes : Event → Prop
  | issued _ | refused | givenUp => True
  | edited | accepted _ | discarded _ => False

end Event

/-- The request of a ticket was issued, and nothing has come of an operation since. -/
def UnderWay (log : List Event) (ticket : Nat) : Prop :=
  ∃ earlier later, log = earlier ++ .issued ticket :: later ∧ ∀ event ∈ later, event.Idle

/-- The request of a ticket was cancelled while it was under way. -/
def Superseded (log : List Event) (ticket : Nat) : Prop :=
  ∃ earlier event later, log = earlier ++ event :: later ∧ UnderWay earlier ticket ∧ event.Supersedes

theorem concat_eq_append_cons_iff {α : Type} {l before after : List α} {last x : α} :
    l ++ [last] = before ++ x :: after ↔
      (l = before ∧ last = x ∧ after = []) ∨ ∃ rest, after = rest ++ [last] ∧ l = before ++ x :: rest := by
  constructor
  · intro h
    induction after using List.reverseRecOn with
    | nil =>
      obtain ⟨hl, hlast⟩ := List.append_inj' h rfl
      exact .inl ⟨hl, (List.cons.inj hlast).1, rfl⟩
    | append_singleton rest y _ =>
      rw [← List.cons_append, ← List.append_assoc] at h
      obtain ⟨hl, hlast⟩ := List.append_inj' h rfl
      exact .inr ⟨rest, by rw [(List.cons.inj hlast).1], hl⟩
  · rintro (⟨rfl, rfl, rfl⟩ | ⟨rest, rfl, rfl⟩)
    · rfl
    · simp

variable {log earlier later : List Event} {event : Event} {ticket other : Nat}

theorem underWay_concat : UnderWay (log ++ [event]) ticket ↔
    event = .issued ticket ∨ event.Idle ∧ UnderWay log ticket := by
  simp only [UnderWay, concat_eq_append_cons_iff]
  constructor
  · rintro ⟨before, after, ⟨-, rfl, -⟩ | ⟨rest, rfl, hlog⟩, hafter⟩
    · exact .inl rfl
    · exact .inr ⟨hafter event (by simp), before, rest, hlog, fun e he => hafter e (by simp [he])⟩
  · rintro (rfl | ⟨hidle, before, rest, hlog, hrest⟩)
    · exact ⟨log, [], .inl ⟨rfl, rfl, rfl⟩, by simp⟩
    · refine ⟨before, rest ++ [event], .inr ⟨rest, rfl, hlog⟩, fun e he => ?_⟩
      rcases List.mem_append.1 he with he | he
      · exact hrest e he
      · rwa [List.mem_singleton.1 he]

theorem superseded_concat : Superseded (log ++ [event]) ticket ↔
    Superseded log ticket ∨ UnderWay log ticket ∧ event.Supersedes := by
  simp only [Superseded, concat_eq_append_cons_iff]
  constructor
  · rintro ⟨before, first, after, ⟨rfl, rfl, -⟩ | ⟨rest, rfl, hlog⟩, hunderWay, hfirst⟩
    · exact .inr ⟨hunderWay, hfirst⟩
    · exact .inl ⟨before, first, rest, hlog, hunderWay, hfirst⟩
  · rintro (⟨before, first, rest, hlog, hunderWay, hfirst⟩ | ⟨hunderWay, hevent⟩)
    · exact ⟨before, first, rest ++ [event], .inr ⟨rest, rfl, hlog⟩, hunderWay, hfirst⟩
    · exact ⟨log, event, [], .inl ⟨rfl, rfl, rfl⟩, hunderWay, hevent⟩

@[simp] theorem not_underWay_nil : ¬ UnderWay [] ticket := by
  rintro ⟨before, after, h, -⟩
  simp at h

@[simp] theorem not_superseded_nil : ¬ Superseded [] ticket := by
  rintro ⟨before, first, after, h, -⟩
  simp at h

theorem mem_issued : ticket ∈ log.filterMap Event.issued? ↔ .issued ticket ∈ log := by
  rw [List.mem_filterMap]
  constructor
  · rintro ⟨event, hevent, hissued⟩
    cases event <;> cases hissued
    exact hevent
  · exact fun h => ⟨_, h, rfl⟩

theorem issued_concat :
    (log ++ [event]).filterMap Event.issued? = log.filterMap Event.issued? ++ event.issued?.toList := by
  rw [List.filterMap_append]
  cases event <;> rfl

theorem UnderWay.mem (h : UnderWay log ticket) : .issued ticket ∈ log := by
  obtain ⟨before, after, rfl, -⟩ := h
  simp

/-- What was under way once and has been answered or cancelled is not under way again, since its
ticket is not issued again. -/
theorem UnderWay.not_later (h : UnderWay earlier ticket) (hevent : ¬ event.Idle)
    (hnodup : ((earlier ++ event :: later).filterMap Event.issued?).Nodup) :
    ¬ UnderWay (earlier ++ event :: later) ticket := by
  have hnot : .issued ticket ∉ event :: later := by
    rw [List.filterMap_append] at hnodup
    intro hmem
    exact (List.disjoint_of_nodup_append hnodup) (mem_issued.2 h.mem) (mem_issued.2 hmem)
  rintro ⟨before, after, heq, hafter⟩
  -- the ticket was issued before the event, so the event is among those that should be idle
  rcases List.append_eq_append_iff.1 heq with ⟨middle, -, hmiddle⟩ | ⟨middle, -, hmiddle⟩
  · exact hnot (hmiddle ▸ by simp)
  · cases middle with
    | nil => exact hnot (by rw [List.nil_append] at hmiddle; rw [← hmiddle]; simp)
    | cons first middle =>
      obtain ⟨-, hrest⟩ := List.cons.inj hmiddle
      exact hevent (hafter event (by rw [hrest]; simp))

end Journey

/-! ### What an operation does to a controller -/

namespace Controller

open Journey

/-- All that an operation can do to a controller, by what comes of it. -/
inductive Moves (controller : Controller) : Event → Controller → Prop
  | edited : Moves controller .edited controller
  | issued (origin : String) (action : HostAction) (target : Option String) :
    Moves controller (.issued controller.nextTicket)
      { controller.cancelFlight with
        nextTicket := controller.nextTicket + 1
        flight := some ⟨controller.nextTicket, origin, action⟩
        phase := .awaitingHost controller.nextTicket target }
  | refused (view : String) :
    Moves controller .refused { controller.cancelFlight with phase := .editing view }
  | accepted (flight : Flight) (view : String) : controller.flight = some flight →
    Moves controller (.accepted flight.ticket)
      { controller with flight := none, phase := .editing view }
  | discarded (ticket : Nat) : (∀ flight, controller.flight = some flight → flight.ticket ≠ ticket) →
    Moves controller (.discarded ticket) controller
  | givenUp : Moves controller .givenUp controller.cancel

variable {controller next : Controller} {log : List Event} {event : Event} {ticket : Nat}

@[simp] theorem nextTicket_cancelFlight : controller.cancelFlight.nextTicket = controller.nextTicket := by
  simp only [cancelFlight]
  split <;> rfl

@[simp] theorem flight_cancelFlight : controller.cancelFlight.flight = none := by
  simp only [cancelFlight]
  split
  · rfl
  · assumption

@[simp] theorem mem_cancelled_cancelFlight : ticket ∈ controller.cancelFlight.cancelled ↔
    ticket ∈ controller.cancelled ∨
      ∃ flight, controller.flight = some flight ∧ flight.ticket = ticket := by
  cases h : controller.flight with
  | none => simp [cancelFlight, h]
  | some flight => simp [cancelFlight, h, eq_comm]

/-- To give up cancels the flight, and ends the waiting if there was one. -/
theorem cancel_eq (controller : Controller) : ∃ phase,
    controller.cancel = { controller.cancelFlight with phase } ∧
      ((controller.flight = none ∧ phase = controller.phase) ∨ ∃ view, phase = .editing view) := by
  obtain ⟨nextTicket, flight?, phase, cancelled⟩ := controller
  cases flight? with
  | none => exact ⟨phase, rfl, .inl ⟨rfl, rfl⟩⟩
  | some flight => exact ⟨.editing flight.origin, rfl, .inr ⟨_, rfl⟩⟩

end Controller

namespace Journey

variable {journey : Journey}

theorem check_controller (journey : Journey) (origin : String) (action : HostAction) :
    (journey.check origin action).2.controller = { journey.controller with phase := .validating } := by
  simp only [check]
  split <;> rfl

/-- To prepare a request goes through phases, and does nothing else to the controller. -/
theorem prepare_controller (journey : Journey) (request : NavigationRequest) (origin : String) :
    ∃ phase, (journey.prepare request origin).2.controller = { journey.controller with phase } := by
  simp only [prepare]
  split
  · exact ⟨_, rfl⟩
  split
  · exact ⟨_, rfl⟩
  split
  · exact ⟨_, check_controller journey origin request.action⟩
  split
  all_goals
    refine ⟨.resolvingNext, ?_⟩
    show { (journey.check origin request.action).2.controller with phase := .resolvingNext } = _
    rw [check_controller]

theorem begin_moves (journey : Journey) (request : NavigationRequest) :
    journey.controller.Moves (journey.event (.begin request)) (journey.begin request).2.controller := by
  obtain ⟨phase, hphase⟩ := prepare_controller { journey with controller := journey.controller.cancelFlight }
    request journey.session.state.currentView
  simp only [event, begin]
  generalize prepare _ request _ = prepared at hphase
  obtain ⟨result, next⟩ := prepared
  have hnext : next.controller.nextTicket = journey.controller.nextTicket := by
    rw [hphase]; exact Controller.nextTicket_cancelFlight
  cases result with
  | error error =>
    show Controller.Moves _ .refused { next.controller with phase := .editing _ }
    rw [hphase]
    exact .refused _
  | ok hostRequest =>
    show Controller.Moves _ (.issued next.controller.nextTicket) { next.controller with
      nextTicket := next.controller.nextTicket + 1
      flight := some ⟨next.controller.nextTicket, _, _⟩
      phase := .awaitingHost next.controller.nextTicket _ }
    rw [hnext, hphase]
    exact .issued _ _ _

theorem land_controller (journey : Journey) (flight : Flight) (answer : HostAnswer) :
    ∃ view, (journey.land flight answer).2.controller =
      { journey.controller with phase := .editing view } := by
  cases answer with
  | error error => exact ⟨_, rfl⟩
  | ok view =>
    simp only [land]
    split
    · exact ⟨_, rfl⟩
    · exact ⟨_, rfl⟩

theorem land_ne_cancelled (journey : Journey) (flight : Flight) (answer : HostAnswer) :
    (journey.land flight answer).1 ≠ .error .cancelled := by
  cases answer with
  | error error => exact fun h => nomatch h
  | ok view =>
    simp only [land]
    split
    · exact fun h => nomatch h
    · exact fun h => nomatch h

theorem complete_of_flight {flight : Flight} (answer : HostAnswer)
    (h : journey.controller.flight = some flight) : journey.complete flight.ticket answer =
      land { journey with controller := { journey.controller with flight := none } } flight answer := by
  simp only [complete, h, if_true]

theorem complete_of_no_flight {ticket : Nat} (answer : HostAnswer)
    (h : ∀ flight, journey.controller.flight = some flight → flight.ticket ≠ ticket) :
    journey.complete ticket answer = (.error .cancelled, journey) := by
  simp only [complete]
  split
  · rename_i flight hflight
    rw [if_neg (h flight hflight)]
  · rfl

theorem event_of_flight {flight : Flight} (answer : HostAnswer)
    (h : journey.controller.flight = some flight) :
    journey.event (.complete flight.ticket answer) = .accepted flight.ticket := by
  simp only [event]
  split
  · rename_i hcancelled
    rw [complete_of_flight answer h] at hcancelled
    exact absurd hcancelled (land_ne_cancelled _ _ _)
  · rfl

theorem complete_moves (journey : Journey) (ticket : Nat) (answer : HostAnswer) :
    journey.controller.Moves (journey.event (.complete ticket answer))
      (journey.complete ticket answer).2.controller := by
  by_cases h : ∃ flight, journey.controller.flight = some flight ∧ flight.ticket = ticket
  · obtain ⟨flight, hflight, rfl⟩ := h
    obtain ⟨view, hview⟩ := land_controller
      { journey with controller := { journey.controller with flight := none } } flight answer
    rw [event_of_flight answer hflight, complete_of_flight answer hflight, hview]
    exact .accepted flight view hflight
  · have hnone : ∀ flight, journey.controller.flight = some flight → flight.ticket ≠ ticket :=
      fun flight hflight heq => h ⟨flight, hflight, heq⟩
    have hcomplete := complete_of_no_flight answer hnone
    simp only [event, hcomplete]
    exact .discarded ticket hnone

/-- Every operation moves the controller as its event says. -/
theorem perform_moves (journey : Journey) (operation : Operation) :
    journey.controller.Moves (journey.event operation) (journey.perform operation).controller := by
  cases operation with
  | session operation => exact .edited
  | begin request => exact begin_moves journey request
  | complete ticket answer => exact complete_moves journey ticket answer
  | cancel => exact .givenUp

end Journey

/-! ### What a controller knows of the past -/

namespace Controller

open Journey

/-- A controller knows which request is under way and which ones were cancelled, and it has not issued
the next ticket. -/
structure Tracks (controller : Controller) (log : List Event) : Prop where
  underWay_iff : ∀ ticket,
    UnderWay log ticket ↔ ∃ flight, controller.flight = some flight ∧ flight.ticket = ticket
  awaiting : ∀ flight, controller.flight = some flight →
    ∃ target, controller.phase = .awaitingHost flight.ticket target
  editing : controller.flight = none → ∃ view, controller.phase = .editing view
  lt_nextTicket : ∀ ticket ∈ log.filterMap Event.issued?, ticket < controller.nextTicket
  ascending : (log.filterMap Event.issued?).Pairwise (· < ·)
  cancelled_iff : ∀ ticket, ticket ∈ controller.cancelled ↔ Superseded log ticket
  accepted : ∀ earlier ticket later, log = earlier ++ .accepted ticket :: later → UnderWay earlier ticket

namespace Tracks

variable {controller next : Controller} {log rest : List Event} {event : Event} {ticket : Nat}

theorem ofSession (session : Session) : (Controller.ofSession session).Tracks [] where
  underWay_iff ticket := by simp [Controller.ofSession]
  awaiting flight h := by cases h
  editing _ := ⟨_, rfl⟩
  lt_nextTicket ticket h := by cases h
  ascending := .nil
  cancelled_iff ticket := by simp [Controller.ofSession]
  accepted earlier ticket later h := by simp at h

theorem accepted_concat (h : controller.Tracks log)
    (hevent : ∀ ticket, event = .accepted ticket → UnderWay log ticket)
    (earlier : List Event) (ticket : Nat) (later : List Event)
    (heq : log ++ [event] = earlier ++ .accepted ticket :: later) : UnderWay earlier ticket := by
  rcases concat_eq_append_cons_iff.1 heq with ⟨rfl, heq, -⟩ | ⟨rest, -, heq⟩
  · exact hevent ticket heq
  · exact h.accepted earlier ticket rest heq

/-- Where nothing comes of an operation, the controller knows what it knew. -/
theorem idle (h : controller.Tracks log) (hidle : event.Idle) : controller.Tracks (log ++ [event]) := by
  have hissued : (log ++ [event]).filterMap Event.issued? = log.filterMap Event.issued? := by
    rw [issued_concat]
    cases event <;> first | exact List.append_nil _ | cases hidle
  refine ⟨fun ticket => ?_, h.awaiting, h.editing, ?_, ?_, fun ticket => ?_, h.accepted_concat ?_⟩
  · rw [underWay_concat, ← h.underWay_iff ticket]
    constructor
    · rintro (rfl | ⟨-, hunderWay⟩)
      · cases hidle
      · exact hunderWay
    · exact fun hunderWay => .inr ⟨hidle, hunderWay⟩
  · rw [hissued]; exact h.lt_nextTicket
  · rw [hissued]; exact h.ascending
  · rw [superseded_concat, h.cancelled_iff ticket]
    refine ⟨.inl, fun hor => hor.resolve_right fun hsupersedes => ?_⟩
    cases event <;> first | exact hsupersedes.2 | exact hidle
  · rintro ticket rfl; cases hidle

/-- Where an operation cancels the request under way and begins none, the controller waits for none. -/
theorem cancelled (h : controller.Tracks log) (hevent : event = .refused ∨ event = .givenUp)
    {phase : Phase} (hphase : ∃ view, phase = .editing view) :
    Tracks { controller.cancelFlight with phase } (log ++ [event]) := by
  have hissued : (log ++ [event]).filterMap Event.issued? = log.filterMap Event.issued? := by
    rw [issued_concat]
    rcases hevent with rfl | rfl <;> exact List.append_nil _
  refine ⟨fun ticket => ?_, ?_, fun _ => hphase, ?_, ?_, fun ticket => ?_, h.accepted_concat ?_⟩
  · rw [underWay_concat]
    rcases hevent with rfl | rfl <;> simp [Event.Idle]
  · simp
  · rw [hissued]; simpa using h.lt_nextTicket
  · rw [hissued]; exact h.ascending
  · rw [superseded_concat, ← h.cancelled_iff ticket, h.underWay_iff ticket]
    rcases hevent with rfl | rfl <;> simp [Event.Supersedes]
  · rintro ticket rfl; simp at hevent

/-- What was known before an operation, and its event, is known behind it. -/
theorem step (h : controller.Tracks log) (hmove : controller.Moves event next) :
    next.Tracks (log ++ [event]) := by
  cases hmove with
  | edited => exact h.idle trivial
  | discarded ticket hnone => exact h.idle trivial
  | refused view => exact h.cancelled (.inl rfl) ⟨view, rfl⟩
  | givenUp =>
    obtain ⟨phase, hcancel, hphase⟩ := controller.cancel_eq
    rw [hcancel]
    refine h.cancelled (.inr rfl) ?_
    rcases hphase with ⟨hflight, rfl⟩ | hediting
    · exact h.editing hflight
    · exact hediting
  | issued origin action target =>
    refine ⟨fun ticket => ?_, ?_, ?_, ?_, ?_, fun ticket => ?_, h.accepted_concat ?_⟩
    · simp [underWay_concat, Event.Idle, eq_comm]
    · rintro flight ⟨⟩; exact ⟨target, rfl⟩
    · simp
    · rw [issued_concat]
      intro ticket hticket
      rcases List.mem_append.1 hticket with hold | hnew
      · exact Nat.lt_succ_of_lt (h.lt_nextTicket ticket hold)
      · rw [List.mem_singleton.1 hnew]; exact Nat.lt_succ_self _
    · rw [issued_concat]
      refine List.pairwise_append.2 ⟨h.ascending, List.pairwise_singleton _ _, fun old hold new hnew => ?_⟩
      rw [List.mem_singleton.1 hnew]
      exact h.lt_nextTicket old hold
    · rw [superseded_concat, ← h.cancelled_iff ticket, h.underWay_iff ticket]
      simp [Event.Supersedes]
    · rintro ticket ⟨⟩
  | accepted flight view hflight =>
    refine ⟨fun ticket => ?_, ?_, fun _ => ⟨view, rfl⟩, ?_, ?_, fun ticket => ?_, h.accepted_concat ?_⟩
    · simp [underWay_concat, Event.Idle]
    · simp
    · rw [issued_concat]; simpa [Event.issued?] using h.lt_nextTicket
    · rw [issued_concat]; simpa [Event.issued?] using h.ascending
    · rw [superseded_concat, ← h.cancelled_iff ticket]
      simp [Event.Supersedes]
    · rintro ticket ⟨⟩
      exact (h.underWay_iff _).2 ⟨flight, hflight, rfl⟩

theorem nodup_of_append (h : controller.Tracks (log ++ rest)) :
    (log.filterMap Event.issued?).Nodup := by
  have hascending := h.ascending
  rw [List.filterMap_append] at hascending
  exact (List.pairwise_append.1 hascending).1.imp Nat.ne_of_lt

/-- What is under way ends once: it is not under way behind the event that ends it. -/
theorem not_underWay_later {earlier later : List Event}
    (h : controller.Tracks (earlier ++ event :: later ++ rest)) (hunderWay : UnderWay earlier ticket)
    (hevent : ¬ event.Idle) :
    ¬ UnderWay (earlier ++ event :: later) ticket :=
  hunderWay.not_later hevent h.nodup_of_append

theorem accepted_notMem {earlier later : List Event}
    (h : controller.Tracks (earlier ++ .accepted ticket :: later)) : .accepted ticket ∉ later := by
  intro hmem
  obtain ⟨middle, after, rfl⟩ := List.append_of_mem hmem
  have heq : earlier ++ .accepted ticket :: (middle ++ .accepted ticket :: after) =
      earlier ++ .accepted ticket :: middle ++ .accepted ticket :: after := by simp
  have hfirst := h.accepted earlier ticket _ rfl
  rw [heq] at h
  exact h.not_underWay_later hfirst id (h.accepted _ ticket after rfl)

/-- A request that was accepted was not cancelled. -/
theorem not_superseded (h : controller.Tracks log) (haccepted : .accepted ticket ∈ log) :
    ¬ Superseded log ticket := by
  obtain ⟨earlier, later, rfl⟩ := List.append_of_mem haccepted
  have hearlier := h.accepted earlier ticket later rfl
  rintro ⟨before, event, after, heq, hbefore, hevent⟩
  rcases List.append_eq_append_iff.1 heq with ⟨middle, rfl, hmiddle⟩ | ⟨middle, rfl, hmiddle⟩
  · cases middle with
    | nil =>
      obtain ⟨rfl, -⟩ := List.cons.inj hmiddle
      exact hevent
    | cons first middle =>
      obtain ⟨rfl, -⟩ := List.cons.inj hmiddle
      rw [heq] at h
      exact h.not_underWay_later hearlier id hbefore
  · cases middle with
    | nil =>
      obtain ⟨rfl, -⟩ := List.cons.inj hmiddle
      exact hevent
    | cons first middle =>
      obtain ⟨rfl, -⟩ := List.cons.inj hmiddle
      refine h.not_underWay_later hbefore (fun hidle => ?_) hearlier
      cases event <;> first | exact hevent | exact hidle

end Tracks

end Controller

namespace Journey

variable {session : Session} {operations : List Operation}

/-- After any operations the controller knows what came of them. -/
theorem tracks_after (session : Session) (operations : List Operation) :
    ((ofSession session).after operations).controller.Tracks ((ofSession session).log operations) := by
  induction operations using List.reverseRecOn with
  | nil => exact .ofSession session
  | append_singleton operations operation ih =>
    rw [after_concat, log_concat]
    exact ih.step (perform_moves _ operation)

/-- After any operations on a journey, the controller waits for the host if and only if a request is
under way, and else it is editing. Tickets ascend. Only the request that is under way is accepted, and
once; every other answer of the host changes nothing. What is cancelled is what was under way when
another request was begun or the user gave up, and nothing that was accepted. -/
theorem last_request_wins (session : Session) (operations : List Operation) :
    let journey := (ofSession session).after operations
    let log := (ofSession session).log operations
    (∀ ticket, (∃ target, journey.controller.phase = .awaitingHost ticket target) ↔ UnderWay log ticket) ∧
    (∀ ticket, (∃ flight, journey.controller.flight = some flight ∧ flight.ticket = ticket) ↔
      UnderWay log ticket) ∧
    ((∃ ticket, UnderWay log ticket) ∨ ∃ view, journey.controller.phase = .editing view) ∧
    (log.filterMap Event.issued?).Pairwise (· < ·) ∧
    (∀ earlier ticket later, log = earlier ++ .accepted ticket :: later →
      UnderWay earlier ticket ∧ .accepted ticket ∉ later) ∧
    (∀ ticket answer,
      (UnderWay log ticket → journey.event (.complete ticket answer) = .accepted ticket) ∧
      (¬ UnderWay log ticket → journey.complete ticket answer = (.error .cancelled, journey))) ∧
    (∀ ticket, ticket ∈ journey.controller.cancelled ↔ Superseded log ticket) ∧
    ∀ ticket, .accepted ticket ∈ log → ticket ∉ journey.controller.cancelled := by
  intro journey log
  have h : journey.controller.Tracks log := tracks_after session operations
  refine ⟨fun ticket => ⟨?_, fun hunderWay => ?_⟩, fun ticket => (h.underWay_iff ticket).symm, ?_,
    h.ascending, fun earlier ticket later heq => ?_, fun ticket answer => ⟨fun hunderWay => ?_, fun hnot => ?_⟩,
    h.cancelled_iff, fun ticket haccepted => ?_⟩
  · rintro ⟨target, hphase⟩
    cases hflight : journey.controller.flight with
    | none =>
      obtain ⟨view, hview⟩ := h.editing hflight
      rw [hphase] at hview; cases hview
    | some flight =>
      obtain ⟨other, hother⟩ := h.awaiting flight hflight
      rw [hphase] at hother; cases hother
      exact (h.underWay_iff _).2 ⟨flight, hflight, rfl⟩
  · obtain ⟨flight, hflight, rfl⟩ := (h.underWay_iff ticket).1 hunderWay
    exact h.awaiting flight hflight
  · cases hflight : journey.controller.flight with
    | none => exact .inr (h.editing hflight)
    | some flight => exact .inl ⟨_, (h.underWay_iff _).2 ⟨flight, hflight, rfl⟩⟩
  · rw [heq] at h
    exact ⟨h.accepted earlier ticket later rfl, h.accepted_notMem⟩
  · obtain ⟨flight, hflight, rfl⟩ := (h.underWay_iff ticket).1 hunderWay
    exact event_of_flight answer hflight
  · exact complete_of_no_flight answer fun flight hflight heq =>
      hnot ((h.underWay_iff ticket).2 ⟨flight, hflight, heq⟩)
  · rw [h.cancelled_iff]
    exact h.not_superseded haccepted

/-- Of two requests to save, the second takes the place of the first. The host's answer to the second
is accepted, but not a second time, and the one to the first is too late. -/
theorem last_request_wins_save :
    let journey := (ofSession (.start Form.echo {} [])).after
      [.begin ⟨.save, none⟩, .begin ⟨.save, none⟩, .complete 2 (.ok "only")]
    journey.complete 1 (.ok "only") = (.error .cancelled, journey) ∧
    journey.complete 2 (.ok "only") = (.error .cancelled, journey) ∧
    1 ∈ journey.controller.cancelled ∧ 2 ∉ journey.controller.cancelled := by
  intro journey
  have hlog : (ofSession (.start Form.echo {} [])).log
      [.begin ⟨.save, none⟩, .begin ⟨.save, none⟩, .complete 2 (.ok "only")] =
      [.issued 1, .issued 2, .accepted 2] := by decide +kernel
  have hwins := last_request_wins (.start Form.echo {} [])
    [.begin ⟨.save, none⟩, .begin ⟨.save, none⟩, .complete 2 (.ok "only")]
  rw [hlog] at hwins
  obtain ⟨-, -, -, -, -, hcomplete, hcancelled, haccepted⟩ := hwins
  have hnone : ∀ ticket, ¬ UnderWay [.issued 1, .issued 2, .accepted 2] ticket := fun ticket => by
    rw [show [Event.issued 1, .issued 2, .accepted 2] = [.issued 1, .issued 2] ++ [.accepted 2] from rfl,
      underWay_concat]
    simp [Event.Idle]
  refine ⟨(hcomplete 1 _).2 (hnone 1), (hcomplete 2 _).2 (hnone 2), ?_, haccepted 2 (by simp)⟩
  exact (hcancelled 1).2 ⟨[.issued 1], .issued 2, [.accepted 2], rfl, ⟨[], [], rfl, by simp⟩, trivial⟩

end Journey
end Formwork
