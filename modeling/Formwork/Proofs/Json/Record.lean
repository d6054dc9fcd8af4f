import Formwork.Definition.Coding
import Formwork.Proofs.Json.Distinct

/-!
# What is written is read again

A decoder reads a value where it finds it in the document that writes it (`Decoder.Reads`). The parts of a
record do so if each field does (`Parts.Reads`), since a record keeps every field under its name wherever it
stands. What a field says that is absent is for its part to know: no value, or the value for when it is
absent.

Not every value is read from its writing: an object may have a name twice, and a `null` may stand for no
value. But whatever has been read has neither (`Decoder.Yields`), so it is read again (`Decoder.Survives`).
-/

namespace Formwork

namespace Document

theorem ofItems_eq (items : List Json) : ofItems items = items.map ofJson := by
  induction items with
  | nil => rfl
  | cons item items ih => rw [ofItems, ih, List.map_cons]

theorem ofFields_eq (fields : Fields Json) :
    ofFields fields = fields.map fun (name, value) => (.ok name, ofJson value) := by
  induction fields with
  | nil => rfl
  | cons field fields ih => rw [ofFields, ih, List.map_cons]

end Document

namespace Decoder

variable {α β : Type} {decode : Decoder α} {value : α}

theorem bind_eq_ok {ε : Type} {x : Except ε α} {f : α → Except ε β} {b : β} :
    x >>= f = .ok b ↔ ∃ a, x = .ok a ∧ f a = .ok b := by
  cases x with
  | error error => exact ⟨nofun, nofun⟩
  | ok a => exact ⟨fun h => ⟨a, rfl, h⟩, fun ⟨_, rfl, h⟩ => h⟩

theorem mapError_eq_ok {ε ε' : Type} {x : Except ε α} {f : ε → ε'} {a : α} :
    x.mapError f = .ok a ↔ x = .ok a := by
  cases x with
  | error error => exact ⟨nofun, nofun⟩
  | ok a => exact ⟨fun h => by cases h; rfl, fun h => by cases h; rfl⟩

/-! ### Values -/

/-- A decoder finds data in the document of a value. -/
def Reads (decode : Decoder α) (json : Json) (value : α) : Prop := decode (.ofJson json) = .ok value

theorem reads_text (value : String) : text.Reads (.str value) value := rfl

theorem reads_flag (value : Bool) : flag.Reads (.bool value) value := rfl

theorem reads_natural (value : Nat) : natural.Reads (.int value) value := by
  have hvalue : (Number.int value).toNat? = some value := by
    rw [Number.toNat?, if_pos (Int.natCast_nonneg value)]
    rfl
  simp only [Decoder.Reads, Json.int, Document.ofJson, natural, hvalue]

theorem reads_optional {json : Json} (h : decode.Reads json value) (hnull : json ≠ .null) :
    (optional decode).Reads json (some value) := by
  have hread : decode (.ofJson json) = .ok value := h
  show optional decode (.ofJson json) = _
  cases json with
  | null => exact absurd rfl hnull
  | _ => exact congrArg (Except.map some) hread

theorem mapM_reads {γ : Type} {f : β → Except Fault γ} {g : α → β} {h : α → γ} {values : List α}
    (hread : ∀ value ∈ values, f (g value) = .ok (h value)) :
    (values.map g).mapM f = .ok (values.map h) := by
  induction values with
  | nil => rfl
  | cons value values ih =>
    obtain ⟨hfirst, hrest⟩ := List.forall_mem_cons.1 hread
    rw [List.map_cons, List.mapM_cons, hfirst, ih hrest]
    rfl

theorem reads_list {encode : α → Json} {values : List α}
    (h : ∀ value ∈ values, decode.Reads (encode value) value) :
    (list decode).Reads (.arr (values.map encode)) values := by
  have hitems : (Document.ofItems (values.map encode)).mapM decode = .ok values := by
    rw [Document.ofItems_eq, List.map_map]
    exact (mapM_reads (h := id) h).trans (congrArg _ (List.map_id values))
  show (do finish none (← (Document.ofItems (values.map encode)).mapM decode)) = Except.ok values
  rw [hitems]
  rfl

theorem reads_fields {encode : α → Json} {values : Fields α} (hnodup : (Fields.names values).Nodup)
    (h : ∀ name value, (name, value) ∈ values → decode.Reads (encode value) value) :
    (fields decode).Reads (.obj (values.map fun (name, value) => (name, encode value))) values := by
  rw [Decoder.Reads, Document.ofJson, fields, Document.ofFields_eq, List.map_map, mapM_reads (h := id),
    List.map_id]
  · exact congrArg Except.ok (Fields.setAll_nil hnodup)
  · rintro ⟨name, value⟩ hmem
    have hread : decode (.ofJson (encode value)) = .ok value := h name value hmem
    show (do return (name, ← decode (.ofJson (encode value)))) = Except.ok (name, value)
    rw [hread]
    rfl

theorem reads_texts (values : List String) : (list text).Reads (.texts values) values :=
  reads_list fun value _ => reads_text value

mutual

theorem reads_json {value : Json} (h : value.Distinct) : json.Reads value value := by
  cases value with
  | arr items =>
    have hitems : jsonItems (Document.ofItems items) = .ok items := reads_jsonItems h
    show (do finish none (Json.arr (← jsonItems (Document.ofItems items)))) = _
    rw [hitems]
    rfl
  | obj fields =>
    have hfields : jsonFields (Document.ofFields fields) = .ok fields := reads_jsonFields h.2
    show (do finish none (Json.obj (Fields.setAll [] (← jsonFields (Document.ofFields fields))))) = _
    rw [hfields]
    exact congrArg (Except.ok ∘ Json.obj) (Fields.setAll_nil h.1)
  | _ => rfl

theorem reads_jsonItems {items : List Json} (h : Json.DistinctItems items) :
    jsonItems (Document.ofItems items) = .ok items := by
  cases items with
  | nil => rfl
  | cons item items =>
    have hitem : json (.ofJson item) = .ok item := reads_json h.1
    rw [Document.ofItems, jsonItems, hitem, reads_jsonItems h.2]
    rfl

theorem reads_jsonFields {fields : List (String × Json)} (h : Json.DistinctFields fields) :
    jsonFields (Document.ofFields fields) = .ok fields := by
  cases fields with
  | nil => rfl
  | cons field fields =>
    obtain ⟨name, value⟩ := field
    have hvalue : json (.ofJson value) = .ok value := reads_json h.1
    rw [Document.ofFields, jsonFields, hvalue, reads_jsonFields h.2]
    rfl

end

theorem reads_object {values : Fields Json} (h : (Json.obj values).Distinct) :
    object.Reads (.obj values) values := by
  have hread : object.Reads (.obj (values.map fun (name, value) => (name, id value))) values :=
    reads_fields h.1 fun name value hmem => reads_json (Json.distinctFields_iff.1 h.2 name value hmem)
  rwa [show (values.map fun (name, value) => (name, id value)) = values from List.map_id values] at hread

theorem reads_word {meaning : String → Option α} {name : String} (h : meaning name = some value) :
    (word meaning).Reads (.str name) value := by
  simp only [Decoder.Reads, Document.ofJson, word, word.found, h]

/-! ### Records -/

/-- The parts of a record find data where every field that is written is found under its name, and those
that are not are missing. -/
def Parts.Reads (parts : Parts α) (entries : List (String × Option Json)) (value : α) : Prop :=
  ∀ slots : Slots, (∀ name value?, (name, value?) ∈ entries →
      (slots.fields.lookup name).map (·.2) = value?.map .ofJson) →
    parts.find slots = .ok value

namespace Parts.Reads

variable {entries : List (String × Option Json)} {name : String} {absent : Option α}

theorem pure (value : α) : (Parts.pure value).Reads entries value := fun _ _ => rfl

theorem ap {f : Parts (α → β)} {g : α → β} {x : Parts α} (hf : f.Reads entries g)
    (hx : x.Reads entries value) : (f.ap x).Reads entries (g value) := by
  intro slots hslots
  simp only [Parts.ap, hf slots hslots, hx slots hslots]

theorem present {json : Json} (hmem : (name, some json) ∈ entries) (h : decode.Reads json value) :
    (field name decode absent).Reads entries value := by
  intro slots hslots
  have hlookup := hslots name _ hmem
  rw [Option.map_some, Option.map_eq_some_iff] at hlookup
  obtain ⟨⟨place, document⟩, hfound, rfl⟩ := hlookup
  have hread : decode (.ofJson json) = .ok value := h
  simp only [field, hfound, hread]
  rfl

theorem missing (hmem : (name, none) ∈ entries) : (field name decode (some value)).Reads entries value := by
  intro slots hslots
  have hlookup := hslots name _ hmem
  rw [Option.map_none, Option.map_eq_none_iff] at hlookup
  simp only [field, hlookup]

/-- A field that is written unless it has no value. -/
theorem maybe {encode : α → Json} {value? : Option α} (hmem : (name, value?.map encode) ∈ entries)
    (h : ∀ value ∈ value?, decode.Reads (encode value) value ∧ encode value ≠ .null) :
    (Decoder.maybe name decode).Reads entries value? := by
  cases value? with
  | none => exact missing hmem
  | some value =>
    obtain ⟨hread, hnull⟩ := h value rfl
    exact present hmem (reads_optional hread hnull)

/-- A list that is written unless it is empty. -/
theorem unlessEmpty {values : List α} {decode : Decoder (List α)} {json : Json}
    (hmem : (name, if values.isEmpty then none else some json) ∈ entries) (h : decode.Reads json values) :
    (withDefault name decode []).Reads entries values := by
  cases values with
  | nil => exact missing hmem
  | cons value values => exact present hmem h

end Parts.Reads

/-- The fields of an object are all kept under their names, with those that were kept before them. -/
theorem collect_ofFields {known : List String} {fields : Fields Json} {place : Nat}
    {seen : List (String × Nat × Document)} (hnodup : (Fields.names fields).Nodup)
    (hknown : ∀ name ∈ Fields.names fields, name ∈ known)
    (hseen : ∀ name ∈ Fields.names fields, seen.lookup name = none) :
    ∃ slots, collect known place seen none (Document.ofFields fields) = (slots, none) ∧
      ∀ name, (slots.fields.lookup name).map (·.2) =
        ((seen.lookup name).map (·.2)).or ((Fields.get? fields name).map .ofJson) := by
  induction fields generalizing place seen with
  | nil => exact ⟨_, rfl, fun name => by simp [Fields.get?]⟩
  | cons field fields ih =>
    obtain ⟨key, value⟩ := field
    obtain ⟨hkey, hrest⟩ := List.nodup_cons.1 hnodup
    have hin : known.contains key = true := List.contains_iff_mem.2 (hknown key List.mem_cons_self)
    have hnew : seen.lookup key = none := hseen key List.mem_cons_self
    have happend : ∀ name, (seen ++ [(key, place, Document.ofJson value)]).lookup name =
        (seen.lookup name).or (if name = key then some (place, .ofJson value) else none) := fun name => by
      rw [List.lookup_append, lookup_cons, List.lookup_nil]
    have hnext : ∀ name ∈ Fields.names fields,
        (seen ++ [(key, place, Document.ofJson value)]).lookup name = none := fun name hname => by
      have hne : name ≠ key := fun heq => hkey (heq ▸ hname)
      rw [happend, hseen name (List.mem_cons_of_mem _ hname), if_neg hne]
      rfl
    obtain ⟨slots, hcollect, hlookup⟩ :=
      @ih (place + 1) _ hrest (fun name hname => hknown name (List.mem_cons_of_mem _ hname)) hnext
    refine ⟨slots, ?_, fun name => ?_⟩
    · rw [Document.ofFields, collect, if_pos hin, hnew]
      exact hcollect
    · rw [hlookup, happend, Fields.get?, Fields.get?, lookup_cons]
      by_cases hname : name = key
      · rw [hname, hnew, if_pos rfl, if_pos rfl]; rfl
      · rw [if_neg hname, if_neg hname, Option.or_none]

theorem get?_present {entries : List (String × Option Json)} (hnodup : (entries.map (·.1)).Nodup)
    {name : String} {value? : Option Json} (hmem : (name, value?) ∈ entries) :
    (entries.filterMap fun (name, value) => value.map ((name, ·))).lookup name = value? := by
  induction entries with
  | nil => cases hmem
  | cons entry entries ih =>
    obtain ⟨key, first?⟩ := entry
    obtain ⟨hkey, hrest⟩ := List.nodup_cons.1 hnodup
    rcases List.mem_cons.1 hmem with heq | hlater
    · cases heq
      cases value? with
      | some value => exact (lookup_cons name value _ name).trans (if_pos rfl)
      | none =>
        show (entries.filterMap fun (name, value) => value.map ((name, ·))).lookup name = none
        rw [List.lookup_eq_none_iff]
        rintro ⟨other, value⟩ hother
        obtain ⟨⟨_, _⟩, hin, heq⟩ := List.mem_filterMap.1 hother
        obtain ⟨_, -, heq⟩ := Option.map_eq_some_iff.1 heq
        cases heq
        exact bne_iff_ne.2 fun hsame => hkey (List.mem_map.2 ⟨_, hin, hsame.symm⟩)
    · have hne : name ≠ key := fun heq => hkey (List.mem_map.2 ⟨_, hlater, heq⟩)
      cases first? with
      | some value => exact (lookup_cons key value _ name).trans ((if_neg hne).trans (ih hrest hlater))
      | none => exact ih hrest hlater

theorem names_present_sublist (entries : List (String × Option Json)) :
    (Fields.names (entries.filterMap fun (name, value) => value.map ((name, ·)))).Sublist
      (entries.map (·.1)) := by
  induction entries with
  | nil => exact .slnil
  | cons entry entries ih =>
    obtain ⟨key, value?⟩ := entry
    cases value? with
    | none => exact ih.cons key
    | some value => exact ih.cons_cons key

/-- A record is read from an object with the fields of its parts, without those that say nothing. -/
theorem reads_record {parts : Parts α} {entries : List (String × Option Json)}
    (hnames : entries.map (·.1) = parts.names) (hnodup : parts.names.Nodup)
    (h : parts.Reads entries value) : (record parts).Reads (Fields.present entries) value := by
  have hsub := names_present_sublist entries
  rw [hnames] at hsub
  obtain ⟨slots, hcollect, hlookup⟩ := @collect_ofFields parts.names _ 0 []
    (hsub.nodup hnodup) (fun name hname => hsub.subset hname) fun _ _ => rfl
  have hfind : parts.find slots = .ok value := h slots fun name value? hmem => by
    rw [hlookup, List.lookup_nil, Option.map_none, Option.none_or, Fields.get?,
      get?_present (hnames ▸ hnodup) hmem]
  show record parts (.obj (Document.ofFields _) none) = _
  simp only [record, hcollect, hfind]
  rfl

/-! ### What is found -/

/-- Whatever a decoder finds has a property. -/
def Yields (decode : Decoder α) (P : α → Prop) : Prop :=
  ∀ document value, decode document = .ok value → P value

variable {P : α → Prop} {Q : β → Prop}

theorem eq_of_finish {stop : Option Fault} {found : α} (h : finish stop found = .ok value) :
    value = found := by
  cases stop with
  | none => cases h; rfl
  | some fault => cases h

/-- What is found in a text is found in the document that it is read as. -/
theorem Yields.of_run {source : String} (h : decode.Yields P) (hrun : run decode source = .ok value) :
    P value := by
  obtain ⟨found, hfound, hfinish⟩ := bind_eq_ok.1 hrun
  rw [eq_of_finish hfinish]
  exact h _ found hfound

theorem of_mem_mapM {γ : Type} {f : β → Except Fault γ} {R : γ → Prop} {inputs : List β} {found : List γ}
    (hf : ∀ input ∈ inputs, ∀ value, f input = .ok value → R value) (h : inputs.mapM f = .ok found) :
    ∀ value ∈ found, R value := by
  induction inputs generalizing found with
  | nil => cases h; exact nofun
  | cons input inputs ih =>
    rw [List.mapM_cons] at h
    obtain ⟨first, hfirst, h⟩ := bind_eq_ok.1 h
    obtain ⟨rest, hrest, h⟩ := bind_eq_ok.1 h
    cases h
    obtain ⟨hinput, hinputs⟩ := List.forall_mem_cons.1 hf
    exact List.forall_mem_cons.2 ⟨hinput first hfirst, ih hinputs hrest⟩

theorem yields_list (h : decode.Yields P) : (list decode).Yields fun values => ∀ value ∈ values, P value := by
  intro document values hread
  cases document with
  | arr items stop =>
    obtain ⟨found, hfound, hread⟩ := bind_eq_ok.1 hread
    rw [eq_of_finish hread]
    exact of_mem_mapM (fun document _ => h document) hfound
  | _ => cases hread

mutual

theorem distinct_of_json (document : Document) {value : Json} (h : json document = .ok value) :
    value.Distinct := by
  cases document with
  | null | bool | num | str => cases h; trivial
  | arr items stop =>
    obtain ⟨found, hfound, h⟩ := bind_eq_ok.1 h
    rw [eq_of_finish h]
    exact distinct_of_jsonItems items hfound
  | obj fields stop =>
    obtain ⟨found, hfound, h⟩ := bind_eq_ok.1 h
    rw [eq_of_finish h]
    exact Json.distinct_setAll (distinct_of_jsonFields fields hfound)
  | unreadable | garbled | missing => cases h

theorem distinct_of_jsonItems (items : List Document) {found : List Json} (h : jsonItems items = .ok found) :
    Json.DistinctItems found := by
  cases items with
  | nil => cases h; trivial
  | cons item items =>
    obtain ⟨first, hfirst, h⟩ := bind_eq_ok.1 h
    obtain ⟨rest, hrest, h⟩ := bind_eq_ok.1 h
    cases h
    exact ⟨distinct_of_json item hfirst, distinct_of_jsonItems items hrest⟩

theorem distinct_of_jsonFields (fields : List (Except Fault String × Document)) {found : Fields Json}
    (h : jsonFields fields = .ok found) : ∀ field ∈ found, field.2.Distinct := by
  cases fields with
  | nil => cases h; exact nofun
  | cons field fields =>
    obtain ⟨name, document⟩ := field
    obtain ⟨key, -, h⟩ := bind_eq_ok.1 h
    obtain ⟨first, hfirst, h⟩ := bind_eq_ok.1 h
    obtain ⟨rest, hrest, h⟩ := bind_eq_ok.1 h
    cases h
    exact List.forall_mem_cons.2 ⟨distinct_of_json document hfirst, distinct_of_jsonFields fields hrest⟩

end

theorem yields_json : json.Yields Json.Distinct := fun document _ => distinct_of_json document

theorem yields_object : object.Yields fun fields => (Json.obj fields).Distinct := by
  intro document values hread
  cases document with
  | obj entries stop =>
    obtain ⟨found, hfound, hread⟩ := bind_eq_ok.1 hread
    rw [eq_of_finish hread]
    refine Json.distinct_setAll (of_mem_mapM (fun entry _ field hentry => ?_) hfound)
    obtain ⟨name, -, hentry⟩ := bind_eq_ok.1 hentry
    obtain ⟨value, hvalue, hentry⟩ := bind_eq_ok.1 hentry
    cases hentry
    exact yields_json _ _ hvalue
  | _ => cases hread

theorem eq_ok_of_map {ε : Type} {x : Except ε α} (h : x.map some = .ok (some value)) : x = .ok value := by
  cases x with
  | error error => cases h
  | ok found => cases h; rfl

/-- `null` is found in no other document than its own, and there it is no value. -/
theorem yields_optional_json : (optional json).Yields fun value? => ∀ value ∈ value?,
    value.Distinct ∧ value ≠ .null := by
  intro document value? hread value hvalue
  cases hvalue
  have hnull : document ≠ .null := by rintro rfl; cases hread
  have hfound : json document = .ok value := by
    cases document with
    | null => exact absurd rfl hnull
    | _ => exact eq_ok_of_map hread
  refine ⟨yields_json _ _ hfound, ?_⟩
  rintro rfl
  cases document with
  | null => exact hnull rfl
  | arr | obj =>
    obtain ⟨found, -, hfound⟩ := bind_eq_ok.1 hfound
    exact nomatch eq_of_finish hfound
  | _ => cases hfound

/-- Whatever the parts of a record find has a property. -/
def Parts.Yields (parts : Parts α) (P : α → Prop) : Prop :=
  ∀ slots value, parts.find slots = .ok value → P value

namespace Parts.Yields

theorem pure (h : P value) : (Parts.pure value).Yields P := by
  intro slots value' hfind
  cases hfind
  exact h

theorem ap {f : Parts (β → α)} {x : Parts β} (hf : f.Yields fun g => ∀ b, Q b → P (g b)) (hx : x.Yields Q) :
    (f.ap x).Yields P := by
  intro slots value hfind
  rw [Parts.ap] at hfind
  simp only at hfind
  split at hfind
  · rename_i g b hg hb
    cases hfind
    exact hf slots g hg b (hx slots b hb)
  all_goals cases hfind

/-- A field of which nothing is said. -/
theorem skip {f : Parts (β → α)} {x : Parts β} (hf : f.Yields fun g => ∀ b, P (g b)) : (f.ap x).Yields P :=
  ap (fun slots g hg b (_ : True) => hf slots g hg b) fun _ _ _ => trivial

theorem field {name : String} {absent : Option α} (h : decode.Yields P)
    (habsent : ∀ value ∈ absent, P value) :
    (Parts.field name decode absent).Yields P := by
  intro slots value hfind
  dsimp only [Parts.field] at hfind
  split at hfind
  · rename_i place document hlookup
    cases hread : decode document with
    | error fault => rw [hread] at hfind; cases hfind
    | ok found => rw [hread] at hfind; cases hfind; exact h document _ hread
  · split at hfind
    · cases hfind; exact habsent _ rfl
    · cases hfind

end Parts.Yields

theorem yields_record {parts : Parts α} (h : parts.Yields P) : (record parts).Yields P := by
  intro document value hread
  cases document with
  | obj | arr =>
    dsimp only [record] at hread
    split at hread
    · next found hfind =>
      rw [eq_of_finish hread]
      exact h _ found hfind
    all_goals cases hread
  | _ => cases hread

/-! ### What is read again -/

variable {encode : α → Json}

/-- What is read is read again from what is written for it. -/
def Survives (decode : Decoder α) (encode : α → Json) : Prop :=
  decode.Yields fun value => decode.Reads (encode value) value

theorem survives_json : json.Survives id :=
  fun document value h => reads_json (yields_json document value h)

theorem survives_optional_json : (optional json).Yields fun value? => ∀ value ∈ value?,
    json.Reads value value ∧ value ≠ .null :=
  fun document value? h value hvalue =>
    (yields_optional_json document value? h value hvalue).imp_left reads_json

theorem survives_object : object.Survives .obj :=
  fun document values h => reads_object (yields_object document values h)

theorem survives_list (h : decode.Survives encode) :
    (list decode).Survives fun values => .arr (values.map encode) :=
  fun document values hread => reads_list (yields_list h document values hread)

theorem Parts.Yields.optionalList {name : String} (h : decode.Survives encode) :
    (withDefault name (list decode) []).Yields fun values =>
      (list decode).Reads (.arr (values.map encode)) values :=
  .field (survives_list h) fun _ heq => by cases heq; exact rfl

theorem Parts.Yields.optionalObject {name : String} :
    (withDefault name object []).Yields fun values => object.Reads (.obj values) values :=
  .field survives_object fun _ heq => by cases heq; exact rfl

theorem Parts.Yields.maybeJson {name : String} :
    (maybe name json).Yields fun value? => ∀ value ∈ value?, json.Reads value value ∧ value ≠ .null :=
  .field survives_optional_json fun _ heq => by cases heq; exact nofun

theorem Parts.Reads.maybeText {name : String} {entries : List (String × Option Json)}
    {value? : Option String} (hmem : (name, value?.map .str) ∈ entries) : (Decoder.maybe name text).Reads entries value? :=
  .maybe hmem fun value _ => ⟨reads_text value, nofun⟩

end Decoder

end Formwork
