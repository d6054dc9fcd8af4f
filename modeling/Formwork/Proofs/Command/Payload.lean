import Formwork.Command.Run
import Formwork.Proofs.Payload
import Formwork.Proofs.Service.Request
import Formwork.Proofs.Shape

/-!
# What the payload command prints

A command writes what it has read from its files into a request, and the service opens from it the session of
the files. Its answer is the payload of that session. But a payload and a report of a failure come as the same
kind of text, and what tells them apart is a field `error` with a text: so the payload of a form that sends a
text under that name is taken for a failure of the service (`Command.prints_payload`).
-/

namespace Formwork

open Decoder

/-! ### Payloads -/

namespace Form

variable {form : Form} {state : State} {shown : View → Bool} {answer : String} {value : Json}

theorem get?_payload_iff : Fields.get? (form.payload state shown) answer = some value ↔
    ∃ item ∈ form.items, item.answer? = some answer ∧ form.sends state shown item = true ∧
      item.source.shape ((state.value? answer).getD .null) = value := by
  constructor
  · intro h
    have hmem : (answer, value) ∈ form.payload state shown := Fields.mem_of_lookup h
    rw [payload_eq, List.mem_filterMap] at hmem
    obtain ⟨item, hitem, hentry⟩ := hmem
    split at hentry
    · rename_i hsends
      obtain ⟨held, hanswer, hentry⟩ := Option.map_eq_some_iff.1 hentry
      cases hentry
      exact ⟨item, hitem, hanswer, hsends, rfl⟩
    · cases hentry
  · rintro ⟨item, hitem, hanswer, hsends, rfl⟩
    exact get?_payload hitem hanswer hsends

theorem distinct_payload : (Json.obj (form.payload state shown)).Distinct := by
  refine ⟨nodup_names_payload, Json.distinctFields_iff.2 fun answer value hmem => ?_⟩
  obtain ⟨item, -, -, -, rfl⟩ := get?_payload_iff.1 (Fields.lookup_of_mem hmem nodup_names_payload)
  exact Definition.Item.distinct_shape _ _

end Form

namespace Command

/-! ### What is read from files -/

theorem ContextFile.yields : (record ContextFile.parts).Yields fun context =>
    context.user.Distinct ∧ context.task.Distinct ∧ (Json.obj context.answers).Distinct :=
  yields_record <| .ap (.ap (.ap (.pure fun _ huser _ htask _ hanswers => ⟨huser, htask, hanswers⟩)
    (.field yields_json fun _ heq => by cases heq; trivial))
    (.field yields_json fun _ heq => by cases heq; trivial))
    (.field yields_object fun _ heq => by cases heq; exact ⟨List.nodup_nil, trivial⟩)

/-- What a file may hold, or else stands for it. -/
theorem of_readData {α : Type} {decode : Decoder α} {P : α → Prop} {files : Files} {path? : Option String}
    {absent value : α} (h : decode.Yields P)
    (hread : path?.elim (.ok absent) (readData files decode) = .ok value) (habsent : P absent) : P value := by
  cases path? with
  | none => cases hread; exact habsent
  | some path =>
    have hdata : readData files decode path = .ok value := hread
    obtain ⟨text, -, hrun⟩ := bind_eq_ok.1 hdata
    exact h.of_run (mapError_eq_ok.1 hrun)

namespace Inputs

variable {arguments : Arguments} {files : Files} {clock : Expression → Clock} {inputs : Inputs}

/-- The form is that of the definition, and no object in the values names a field twice. -/
structure IsRead (inputs : Inputs) : Prop where
  form : Form.read inputs.definition = .ok inputs.form
  user : inputs.setting.user.Distinct
  task : inputs.setting.task.Distinct
  answers : (Json.obj inputs.answers).Distinct

/-- The texts that go to the service and come back are read as the values that they write. -/
structure Faithful (inputs : Inputs) : Prop where
  config : (Service.Config.encode ⟨some inputs.definition, some inputs.setting.limits⟩).Faithful
  caller : (Service.Caller.encode { user := inputs.setting.user, task := inputs.setting.task }).Faithful
  answers : (Json.obj inputs.answers).Faithful
  payload : (Json.obj inputs.session.payload).Faithful

theorem read_eq : read arguments files clock = do
    let definition ← readText files arguments.spec
    let form ← (Form.read definition).mapError .load
    let context ← arguments.context.elim (.ok {}) (readData files (record ContextFile.parts))
    let more ← arguments.answers.elim (.ok []) (readData files object)
    return ⟨definition, form, ⟨context.user, context.task, arguments.limits form.limits, clock⟩,
      Fields.setAll context.answers more⟩ := by
  rw [read]
  cases arguments.context <;> cases arguments.answers <;> rfl

theorem isRead_of_read (h : read arguments files clock = .ok inputs) : inputs.IsRead := by
  rw [read_eq] at h
  obtain ⟨definition, -, h⟩ := bind_eq_ok.1 h
  obtain ⟨form, hform, h⟩ := bind_eq_ok.1 h
  obtain ⟨context, hcontext, h⟩ := bind_eq_ok.1 h
  obtain ⟨more, hmore, h⟩ := bind_eq_ok.1 h
  cases h
  obtain ⟨huser, htask, hcontext⟩ :=
    of_readData ContextFile.yields hcontext ⟨trivial, trivial, List.nodup_nil, trivial⟩
  have hmore := of_readData yields_object hmore ⟨List.nodup_nil, trivial⟩
  exact ⟨mapError_eq_ok.1 hform, huser, htask,
    Json.distinct_setAll_of hcontext fun field hfield => Json.distinctFields_iff.1 hmore.2 _ _ hfield⟩

theorem session_request (hread : inputs.IsRead) (hfaithful : inputs.Faithful) :
    inputs.request.session = .ok inputs.session :=
  Service.Request.session_write hfaithful.config hfaithful.caller hfaithful.answers rfl hread.form
    hread.user hread.task hread.answers rfl

end Inputs

/-! ### What is printed -/

section

variable {words : List String} {files : Files} {clock : Expression → Clock} {arguments : Arguments}
  {inputs : Inputs}
  (hparse : Arguments.parse words = .ok arguments) (hverb : arguments.verb = .payload)
  (hread : Inputs.read arguments files clock = .ok inputs) (hfaithful : inputs.Faithful)
include hparse hverb hread hfaithful

/-- The command prints the payload, unless that looks like a report of a failure. -/
theorem run_payload : run words files clock =
    match Service.failureIn? inputs.session.payloadReply with
    | some message => { failure := some (.reported message) }
    | none => { stdout := inputs.session.payloadReply.pretty ++ "\n" } := by
  have hsession := Inputs.session_request (Inputs.isRead_of_read hread) hfaithful
  have hanswer : inputs.request.payload = inputs.session.payloadReply.compact := by
    rw [Service.Request.payload, hsession]; rfl
  have hparsed : Json.parse inputs.session.payloadReply.compact = .ok inputs.session.payloadReply :=
    Json.parse_compact hfaithful.payload Form.distinct_payload
  have hrun : run words files clock = printReply inputs.session.payloadReply.compact := by
    rw [run, hparse]
    show Outcome.ofExcept (Inputs.read arguments files clock) (perform arguments) = _
    rw [hread]
    show perform arguments inputs = _
    rw [perform, hverb, ← hanswer]
  rw [hrun, printReply, accept, hparsed]
  show Outcome.ofExcept (match Service.failureIn? inputs.session.payloadReply with
    | some message => .error (.reported message)
    | none => .ok inputs.session.payloadReply) _ = _
  cases Service.failureIn? inputs.session.payloadReply <;> rfl

/-- From files that can be read, the service opens the session of the files. The command prints the payload
of that session, unless the payload has a text for the field `error`: then it fails with that text. So it
fails exactly where an item is sent as a text under that name, and what it prints else is the payload. -/
theorem prints_payload :
    inputs.request.session = .ok inputs.session ∧
    ((∀ message, Fields.get? inputs.session.payload "error" ≠ some (.str message)) →
      run words files clock = { stdout := (Json.obj inputs.session.payload).pretty ++ "\n" }) ∧
    (∀ message, Fields.get? inputs.session.payload "error" = some (.str message) →
      run words files clock = { failure := some (.reported message) }) ∧
    ∀ message, Fields.get? inputs.session.payload "error" = some (.str message) ↔
      ∃ item ∈ inputs.form.items, item.answer? = some "error" ∧
        inputs.form.sends inputs.session.state inputs.session.shows item = true ∧
        item.source.shape ((inputs.session.state.value? "error").getD .null) = .str message := by
  have hrun := run_payload hparse hverb hread hfaithful
  have hfailure : Service.failureIn? inputs.session.payloadReply =
      (Fields.get? inputs.session.payload "error").bind Json.str? := rfl
  refine ⟨Inputs.session_request (Inputs.isRead_of_read hread) hfaithful, fun hnone => ?_,
    fun message hmessage => ?_, fun message => Form.get?_payload_iff⟩
  · have hreply : Service.failureIn? inputs.session.payloadReply = none := by
      rw [hfailure, Option.bind_eq_none_iff]
      intro value hvalue
      cases value with
      | str message => exact absurd hvalue (hnone message)
      | _ => rfl
    rw [hrun, hreply]; rfl
  · rw [hrun, hfailure, hmessage]; rfl

end

end Command

/-! ### A form that sends an answer as `error` -/

namespace Form

def logDefinition : Definition where
  id := "log"
  title := "Log"
  version := "1"
  views := [{ id := "only", items := [{ id := "error", kind := .text }] }]

/-- A form whose only answer has the name of the field that reports a failure. -/
def log : Form where
  definition := logDefinition
  sound := by decide
  views := [⟨0, logDefinition.views[0], none, none, [
    ⟨0, 0, logDefinition.items[0], none, none, none, none, [], [], none⟩]⟩]
  views_eq := rfl
  items := _
  items_eq := rfl
  index := _
  index_eq := rfl

end Form

namespace Command

/-- The text of `Form.logDefinition`. -/
def logText : String :=
  "[\"log\",\"Log\",\"1\",null,null,\x7b\x7d,[[\"only\",null,false,null,null,[[\"error\",\"text\"]]]]]"

def logWords : List String := ["payload", "--spec", "log.json", "--answers", "answers.json"]

def logFiles : Files := fun path => .ok (if path = "log.json" then logText else "\x7b\"error\": \"boom\"\x7d")

def logArguments : Arguments := ⟨.payload, "log.json", some "answers.json", none, "", .text, none, none, none⟩

def logInputs : Inputs := ⟨logText, .log, {}, [("error", .str "boom")]⟩

theorem parse_log : Arguments.parse logWords = .ok logArguments := by cbv

theorem form_log : Form.read logText = .ok .log := by
  have hrun : Decoder.run Definition.decode logText = .ok Form.logDefinition := by cbv
  have hload : (Form.load Form.logDefinition).mapError LoadError.unsound = .ok .log :=
    mapError_eq_ok.2 (Form.load_definition .log)
  rw [Form.read, hrun]
  exact hload

theorem read_log : Inputs.read logArguments logFiles = .ok logInputs := by
  have hanswers : Decoder.run object "\x7b\"error\": \"boom\"\x7d" = .ok [("error", .str "boom")] := by cbv
  rw [Inputs.read_eq]
  refine bind_eq_ok.2 ⟨logText, rfl, ?_⟩
  refine bind_eq_ok.2 ⟨.log, mapError_eq_ok.2 form_log, ?_⟩
  refine bind_eq_ok.2 ⟨{}, rfl, ?_⟩
  refine bind_eq_ok.2 ⟨[("error", .str "boom")], mapError_eq_ok.2 hanswers, ?_⟩
  rfl

theorem payload_log : logInputs.session.payload = [("error", .str "boom")] := by
  have horder : (Form.log.schedule .full).order = [0] := by decide +kernel
  have hcycles : (Form.log.schedule .full).cycles = [] := by decide +kernel
  have hschedule : Form.log.schedule .full = ⟨[0], []⟩ := by rw [← horder, ← hcycles]
  rw [Session.payload, Session.state, Inputs.session, Session.start, Form.initialState, Form.runPass, logInputs,
    hschedule]
  rfl

theorem readable_limits_log : logInputs.setting.limits.encode.Readable 1 :=
  ⟨by decide, ⟨by decide, by decide⟩, ⟨by decide, by decide⟩, ⟨by decide, by decide⟩, trivial⟩

theorem faithful_log : logInputs.Faithful where
  config := Json.faithful_of_readable ⟨by decide, trivial, readable_limits_log, trivial⟩
  caller := Json.faithful_of_readable ⟨by decide, trivial, trivial, trivial⟩
  answers := Json.faithful_of_readable ⟨by decide, trivial, trivial⟩
  payload := by
    rw [payload_log]
    exact Json.faithful_of_readable ⟨by decide, trivial, trivial⟩

theorem prints_payload_log : logInputs.request.session = .ok logInputs.session ∧
    run logWords logFiles = { failure := some (.reported "boom") } :=
  have hprints := prints_payload parse_log rfl read_log faithful_log
  ⟨hprints.1, hprints.2.2.1 "boom" (by rw [payload_log]; rfl)⟩

/-- Not every payload is printed: this one is taken for a failure of the service, which has not failed. -/
theorem payload_taken_for_failure : ¬∀ words files arguments inputs, Arguments.parse words = .ok arguments →
    arguments.verb = .payload → Inputs.read arguments files = .ok inputs → inputs.Faithful →
    run words files = { stdout := (Json.obj inputs.session.payload).pretty ++ "\n" } := by
  intro h
  have hprints := h _ _ _ _ parse_log rfl read_log faithful_log
  rw [run_payload parse_log rfl read_log faithful_log, Session.payloadReply, payload_log] at hprints
  cases congrArg Outcome.failure hprints

end Command
end Formwork
