import Mathlib.Data.List.TakeWhile
import Formwork.Proofs.Definition.Coding
import Formwork.Proofs.Form.Load
import Formwork.Proofs.Json.Faithful
import Formwork.Service.Basic

/-!
# Requests are read as they were written

A request holds texts of values, and in one of them the text of a definition. Where the texts are read as
the documents of the values that they write (`Json.Faithful`), the service finds what the request was written
from, and opens the session of it (`Service.Request.session_write`). The text of a configuration is never
blank, so it is not taken for the usual one.
-/

namespace Formwork

open Decoder

theorem Decoder.run_compact {α : Type} {decode : Decoder α} {json : Json} {value : α}
    (hfaithful : json.Faithful) (h : decode.Reads json value) : run decode json.compact = .ok value := by
  have hread : decode (.ofJson json) = .ok value := h
  rw [run, hfaithful]
  show (do finish none (← decode (.ofJson json))) = _
  rw [hread]
  rfl

theorem Json.parse_compact {value : Json} (hfaithful : value.Faithful) (h : value.Distinct) :
    parse value.compact = .ok value := run_compact hfaithful (reads_json h)

theorem Form.run_of_read {form : Form} {source : String} (h : read source = .ok form) :
    run Definition.decode source = .ok form.definition := by
  obtain ⟨definition, hrun, hload⟩ := bind_eq_ok.1 h
  rw [definition_of_load (mapError_eq_ok.1 hload)]
  exact mapError_eq_ok.1 hrun

/-- A form is read from what is written for its definition. -/
theorem Form.read_compact {form : Form} (hfaithful : form.definition.encode.Faithful)
    (hreads : Definition.decode.Reads form.definition.encode form.definition) :
    read form.definition.encode.compact = .ok form := by
  have hrun : run Definition.decode form.definition.encode.compact = .ok form.definition :=
    run_compact hfaithful hreads
  rw [read, hrun]
  exact mapError_eq_ok.2 form.load_definition

theorem Text.trim_of_not_blank {text : String} {c : Char} {rest : List Char} (h : text.toList = c :: rest)
    (hc : isBlank c = false) : (trim text).isEmpty = false := by
  rw [trim, h, List.dropWhile_cons_of_neg (by rw [hc]; exact Bool.false_ne_true), Bool.eq_false_iff, ne_eq,
    String.isEmpty_iff, ← String.toList_inj, String.toList_ofList]
  intro hnil
  have hall := List.dropWhile_eq_nil_iff.1 (List.reverse_eq_nil_iff.1 hnil)
  have hblank := hall c (by simp)
  rw [hc] at hblank
  cases hblank

theorem Json.trim_compact_obj (fields : Fields Json) :
    (Text.trim (Json.obj fields).compact).isEmpty = false := by
  have htext : (obj fields).compact.toList = '\x7b' :: (compactFields fields ++ "\x7d").toList := by
    rw [compact, String.append_assoc, String.toList_append]
    rfl
  exact Text.trim_of_not_blank htext (by decide)

namespace Service

theorem Config.reads (config : Config) : (record Config.parts).Reads config.encode config :=
  reads_record rfl (by decide) <|
    .ap (.ap (.pure _)
      (.maybeText (by simp)))
      (Limits.reads_maybe (by simp))

theorem Caller.reads {caller : Caller} (huser : caller.user.Distinct) (htask : caller.task.Distinct) :
    (record Caller.parts).Reads caller.encode caller :=
  reads_record rfl (by decide) <|
    .ap (.ap (.ap (.ap (.pure _)
      (.present (by simp) (reads_json huser)))
      (.present (by simp) (reads_json htask)))
      (.maybeText (by simp)))
      (.unlessEmpty (by simp) (reads_texts _))

namespace Request

variable {form : Form} {source : String} {config : Config} {caller : Caller} {answers : Fields Json}
  {clock : Expression → Clock}

theorem configuration_write (hconfig : config.encode.Faithful) :
    (write form.definition.id config caller answers clock).configuration = .ok config := by
  rw [configuration]
  have hblank : (Text.trim config.encode.compact).isEmpty = false := Json.trim_compact_obj _
  simp only [write, hblank, Bool.false_eq_true, if_false]
  rw [run_compact hconfig config.reads]
  rfl

theorem definition_write (hconfig : config.encode.Faithful) (hdefinition : config.definition = some source)
    (hread : Form.read source = .ok form) :
    (write form.definition.id config caller answers clock).definition = .ok form.definition := by
  have hload : (run Definition.decode source).mapError Refusal.config = .ok form.definition :=
    mapError_eq_ok.2 (Form.run_of_read hread)
  rw [definition, configuration_write hconfig]
  refine bind_eq_ok.2 ⟨config, rfl, ?_⟩
  rw [hdefinition]
  refine bind_eq_ok.2 ⟨form.definition, hload, ?_⟩
  exact if_pos rfl

/-- The service opens the session that a request was written for. -/
theorem session_write (hconfig : config.encode.Faithful) (hcaller : caller.encode.Faithful)
    (hanswers : (Json.obj answers).Faithful) (hdefinition : config.definition = some source)
    (hread : Form.read source = .ok form) (huser : caller.user.Distinct) (htask : caller.task.Distinct)
    (hdistinct : (Json.obj answers).Distinct) (hview : caller.currentView = none) :
    (write form.definition.id config caller answers clock).session = .ok (.start form
      { user := caller.user, task := caller.task, limits := config.limits.getD form.limits, clock }
      answers) := by
  have hload : (Form.load form.definition).mapError Refusal.definition = .ok form :=
    mapError_eq_ok.2 form.load_definition
  have hcaller' : run (record Caller.parts) caller.encode.compact = .ok caller :=
    run_compact hcaller (Caller.reads huser htask)
  have hanswers' : run object (Json.obj answers).compact = .ok answers :=
    run_compact hanswers (reads_object hdistinct)
  rw [session, configuration_write hconfig, definition_write hconfig hdefinition hread]
  refine bind_eq_ok.2 ⟨config, rfl, ?_⟩
  refine bind_eq_ok.2 ⟨form.definition, rfl, ?_⟩
  refine bind_eq_ok.2 ⟨form, hload, ?_⟩
  simp only [write, hcaller', hanswers', Except.toOption, Option.getD_some, hview]
  rfl

end Request
end Service
end Formwork
