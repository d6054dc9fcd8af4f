import Formwork.Proofs.Json.Record

/-!
# Definitions survive a round trip

The parts of a definition are read from what is written for them, one record after the other. Rules and
checks are so whatever they say. The others hold values, properties and defaults, which are if they have been
read themselves; that is carried from the fields that hold them to the record (`Parts.Yields`).
-/

namespace Formwork

open Decoder

namespace Limits

theorem reads (limits : Limits) : decode.Reads limits.encode limits := by
  refine @reads_record _ _ parts [("time_budget_ms", some (.int limits.timeBudgetMs)),
    ("max_steps", some (.int limits.maxSteps)), ("max_memory_bytes", some (.int limits.maxMemoryBytes))]
    rfl (by decide) ?_
  exact .ap (.ap (.ap (.pure _)
    (.present (by simp) (reads_natural _)))
    (.present (by simp) (reads_natural _)))
    (.present (by simp) (reads_natural _))

theorem reads_maybe {name : String} {entries : List (String × Option Json)} {limits? : Option Limits}
    (hmem : (name, limits?.map encode) ∈ entries) : (maybe name decode).Reads entries limits? :=
  .maybe hmem fun limits _ => ⟨limits.reads, nofun⟩

end Limits

namespace Definition

theorem Kind.ofName?_name (kind : Kind) : Kind.ofName? kind.name = some kind := by cases kind <;> rfl

theorem CheckKind.ofName?_name (kind : CheckKind) : CheckKind.ofName? kind.name = some kind := by
  cases kind <;> rfl

theorem Rule.reads (rule : Rule) : decode.Reads rule.encode rule :=
  reads_record rfl (by decide) <|
    .ap (.ap (.pure _)
      (.present (by simp) (reads_text _)))
      (.unlessEmpty (by simp) (reads_texts _))

theorem Rule.reads_maybe {name : String} {entries : List (String × Option Json)} {rule? : Option Rule}
    (hmem : (name, rule?.map Rule.encode) ∈ entries) : (maybe name Rule.decode).Reads entries rule? :=
  .maybe hmem fun rule _ => ⟨rule.reads, nofun⟩

theorem Check.reads (check : Check) : decode.Reads check.encode check :=
  reads_record rfl (by decide) <|
    .ap (.ap (.ap (.ap (.pure _)
      (.present (by simp) (reads_word (CheckKind.ofName?_name _))))
      (.present (by simp) (reads_text _)))
      (.present (by simp) (reads_text _)))
      (.unlessEmpty (by simp) (reads_texts _))

theorem Choice.reads {choice : Choice} (hvalue : json.Reads choice.value choice.value) :
    decode.Reads choice.encode choice :=
  reads_record rfl (by decide) <|
    .ap (.ap (.ap (.ap (.pure _)
      (.present (by simp) hvalue))
      (.present (by simp) (reads_text _)))
      (Rule.reads_maybe (by simp)))
      (Rule.reads_maybe (by simp))

theorem Choice.survives : decode.Survives encode :=
  yields_record <| .skip <| .skip <| .skip <|
    .ap (.pure fun _ hvalue _ _ _ => Choice.reads hvalue) (.field survives_json nofun)

theorem Item.reads {item : Item}
    (hdefault : ∀ value ∈ item.defaultValue, json.Reads value value ∧ value ≠ .null)
    (hprops : object.Reads (.obj item.props) item.props)
    (hoptions : (list Choice.decode).Reads (.arr (item.options.map Choice.encode)) item.options) :
    decode.Reads item.encode item :=
  reads_record rfl (by decide) <|
    .ap (.ap (.ap (.ap (.ap (.ap (.ap (.ap (.ap (.ap (.ap (.ap (.ap (.ap (.pure _)
      (.present (by simp) (reads_text _)))
      (.present (by simp) (reads_word (Kind.ofName?_name _))))
      (.maybeText (by simp)))
      (.maybeText (by simp)))
      (.maybe (by simp) hdefault))
      (.unlessEmpty (by simp) hprops))
      (Rule.reads_maybe (by simp)))
      (Rule.reads_maybe (by simp)))
      (Rule.reads_maybe (by simp)))
      (Rule.reads_maybe (by simp)))
      (.unlessEmpty (by simp) hoptions))
      (.unlessEmpty (by simp) (reads_list fun check _ => check.reads)))
      (Rule.reads_maybe (by simp)))
      (.present (by simp) (reads_flag _))

-- From the last field to the first: only what is known of values, properties and options is carried.
theorem Item.survives : decode.Survives encode :=
  yields_record <| .skip <| .skip <| .skip <| .ap (.skip <| .skip <| .skip <| .skip <|
      .ap (.ap (.skip <| .skip <| .skip <| .skip <| .pure
        fun _ _ _ _ _ hdefault _ hprops _ _ _ _ _ hoptions _ _ _ => Item.reads hdefault hprops hoptions)
        .maybeJson) .optionalObject) (.optionalList Choice.survives)

theorem View.reads {view : View}
    (hitems : (list Item.decode).Reads (.arr (view.items.map Item.encode)) view.items) :
    decode.Reads view.encode view :=
  reads_record rfl (by decide) <|
    .ap (.ap (.ap (.ap (.ap (.ap (.pure _)
      (.present (by simp) (reads_text _)))
      (.maybeText (by simp)))
      (.present (by simp) (reads_flag _)))
      (Rule.reads_maybe (by simp)))
      (Rule.reads_maybe (by simp)))
      (.present (by simp) hitems)

theorem View.survives : decode.Survives encode :=
  yields_record <| .ap (.skip <| .skip <| .skip <| .skip <| .skip <| .pure
    fun _ _ _ _ _ _ hitems => View.reads hitems) (.optionalList Item.survives)

theorem reads {definition : Definition}
    (hinitial : object.Reads (.obj definition.initialValues) definition.initialValues)
    (hviews : (list View.decode).Reads (.arr (definition.views.map View.encode)) definition.views) :
    decode.Reads definition.encode definition :=
  reads_record rfl (by decide) <|
    .ap (.ap (.ap (.ap (.ap (.ap (.ap (.pure _)
      (.present (by simp) (reads_text _)))
      (.present (by simp) (reads_text _)))
      (.present (by simp) (reads_text _)))
      (.maybeText (by simp)))
      (Limits.reads_maybe (by simp)))
      (.unlessEmpty (by simp) hinitial))
      (.present (by simp) hviews)

/-- Every definition that is read from a document is read again from what is written for it. -/
theorem survives : decode.Survives encode :=
  yields_record <| .ap (.ap (.skip <| .skip <| .skip <| .skip <| .skip <| .pure
    fun _ _ _ _ _ _ hinitial _ hviews => reads hinitial hviews) .optionalObject)
    (.field (survives_list View.survives) nofun)

end Definition

end Formwork
