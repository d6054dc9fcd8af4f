import Formwork.Proofs.Expr.Cost
import Formwork.Proofs.Pass.Outcome

/-!
# What an expression reads

A path into the answers starts with the name of one (`Expr.firstAnswer?`), unless it asks for all of
them: by the bare `data`, by a computed name, or by `length`, which is how many there are where no
answer has that id. An expression without such paths costs the same and has the same value whatever
the answers are that it does not name (`Expr.eval_congr`).
-/

namespace Formwork

namespace Expr

mutual

/-- The paths into the answers, at any depth. -/
def dataPaths : Expr → List (List Segment)
  | .literal _ => []
  | .path .data segments => segments :: pathsAlong segments
  | .path .user segments | .path .task segments => pathsAlong segments
  | .unary _ operand => operand.dataPaths
  | .binary _ left right | .logical _ left right => left.dataPaths ++ right.dataPaths
  | .conditional test yes no => test.dataPaths ++ (yes.dataPaths ++ no.dataPaths)
  | .call _ arguments => dataPathsOfAll arguments
  | .array items => dataPathsOfAll items

def dataPathsOfAll : List Expr → List (List Segment)
  | [] => []
  | first :: rest => first.dataPaths ++ dataPathsOfAll rest

/-- The paths into the answers that compute the segments of a path. -/
def pathsAlong : List Segment → List (List Segment)
  | [] => []
  | .field _ :: rest => pathsAlong rest
  | .index key :: rest => key.dataPaths ++ pathsAlong rest

end

/-- The answer that a path into the answers reads, if it names one. -/
def firstAnswer? : List Segment → Option String
  | .field name :: _ => if name = "length" then none else some name
  | _ => none

/-- The answers that an expression names. -/
def answers (tree : Expr) : List String := tree.dataPaths.filterMap firstAnswer?

/-- Every path into the answers names the answer that it reads. -/
def NamesAnswers (tree : Expr) : Prop := ∀ path ∈ tree.dataPaths, (firstAnswer? path).isSome = true

instance (tree : Expr) : Decidable tree.NamesAnswers :=
  inferInstanceAs (Decidable (∀ path ∈ tree.dataPaths, (firstAnswer? path).isSome = true))

/-- A path that names no answer asks for all of them. -/
theorem firstAnswer?_eq_none_iff {path : List Segment} : firstAnswer? path = none ↔
    path = [] ∨ (∃ key rest, path = .index key :: rest) ∨ ∃ rest, path = .field "length" :: rest := by
  cases path with
  | nil => simp [firstAnswer?]
  | cons first rest =>
    cases first with
    | field name => simp [firstAnswer?]
    | index key => simp [firstAnswer?]

section

variable {values others : Fields Json} {user task : Json}

/-- A path names an answer that is the same in both. -/
def SameAt (values others : Fields Json) (path : List Segment) : Prop :=
  ∃ name, firstAnswer? path = some name ∧ Fields.get? values name = Fields.get? others name

theorem SameAt.field {name : String} {rest : List Segment} (h : SameAt values others (.field name :: rest)) :
    asksLength (.str name) = false ∧ Fields.get? values name = Fields.get? others name := by
  obtain ⟨first, hfirst, hsame⟩ := h
  rw [firstAnswer?] at hfirst
  split at hfirst
  · cases hfirst
  · rename_i hlength
    cases hfirst
    exact ⟨beq_false_of_ne hlength, hsame⟩

/-- A named answer is looked up by its name. -/
theorem field_bind {α : Type} (ctx : Context) (name : String) (next : Json → Recorded α) :
    ((segmentKey ctx (.field name) : Recorded Json) >>= next) = (do Meter.tick; next (.str name)) := by
  rw [segmentKey]; rfl

mutual

theorem eval_congr : ∀ tree : Expr, (∀ path ∈ tree.dataPaths, SameAt values others path) →
    (tree.eval ⟨values, user, task⟩ : Recorded Json) = tree.eval ⟨others, user, task⟩
  | .literal value, _ => by simp only [eval]
  | .path .data [], h => by
    obtain ⟨name, hname, -⟩ := h [] List.mem_cons_self
    cases hname
  | .path .data (.index key :: rest), h => by
    obtain ⟨name, hname, -⟩ := h _ List.mem_cons_self
    cases hname
  | .path .data (.field name :: rest), h => by
    obtain ⟨hlength, hsame⟩ := (h _ List.mem_cons_self).field
    have hrest := fun current => follow_congr current rest fun path hpath => h path (List.mem_cons_of_mem _ hpath)
    simp only [eval, field_bind, Json.str?, Option.bind_some, hlength, hsame]
    cases Fields.get? others name with
    | none => rfl
    | some value => simp only [hrest]
  | .path .user segments, h => by
    simp only [eval, follow_congr user segments h]
  | .path .task segments, h => by
    simp only [eval, follow_congr task segments h]
  | .unary op operand, h => by
    simp only [eval, eval_congr operand h]
  | .binary op left right, h => by
    have hboth := List.forall_mem_append.1 h
    simp only [eval, eval_congr left hboth.1, eval_congr right hboth.2]
  | .logical op left right, h => by
    have hboth := List.forall_mem_append.1 h
    simp only [eval, eval_congr left hboth.1, eval_congr right hboth.2]
  | .conditional test yes no, h => by
    obtain ⟨htest, hbranches⟩ := List.forall_mem_append.1 h
    obtain ⟨hyes, hno⟩ := List.forall_mem_append.1 hbranches
    simp only [eval, eval_congr test htest, eval_congr yes hyes, eval_congr no hno]
  | .call helper arguments, h => by
    simp only [eval, evalAll_congr arguments h]
  | .array items, h => by
    simp only [eval, evalAll_congr items h]

theorem evalAll_congr : ∀ trees : List Expr, (∀ path ∈ dataPathsOfAll trees, SameAt values others path) →
    (evalAll ⟨values, user, task⟩ trees : Recorded (List Json)) = evalAll ⟨others, user, task⟩ trees
  | [], _ => by simp only [evalAll]
  | first :: rest, h => by
    have hboth := List.forall_mem_append.1 h
    simp only [evalAll, eval_congr first hboth.1, evalAll_congr rest hboth.2]

theorem follow_congr (current : Json) : ∀ segments : List Segment,
    (∀ path ∈ pathsAlong segments, SameAt values others path) →
    (follow ⟨values, user, task⟩ current segments : Recorded Json) = follow ⟨others, user, task⟩ current segments
  | [], _ => by simp only [follow]
  | .field name :: rest, h => by
    have hrest := fun current => follow_congr current rest h
    simp only [follow, segmentKey, hrest]
  | .index key :: rest, h => by
    have hboth := List.forall_mem_append.1 h
    have hrest := fun current => follow_congr current rest hboth.2
    simp only [follow, segmentKey, eval_congr key hboth.1, hrest]

end

end

theorem sameAt_of_agree {tree : Expr} {values others : Fields Json} (hnames : tree.NamesAnswers)
    (hagree : Form.Agree tree.answers values others) : ∀ path ∈ tree.dataPaths, SameAt values others path := by
  intro path hpath
  obtain ⟨name, hname⟩ := Option.isSome_iff_exists.1 (hnames path hpath)
  exact ⟨name, hname, hagree name (List.mem_filterMap.2 ⟨path, hpath, hname⟩)⟩

end Expr

variable {expression : Expression} {tree : Expr}

/-- Where two contexts agree on the answers that an expression names, no limits and no clock tell them
apart. -/
theorem Expression.evaluate_congr (limits : Limits) (clock : Clock) (ctx other : Context)
    (htree : expression.tree = .ok tree) (hnames : tree.NamesAnswers) (huser : ctx.user = other.user)
    (htask : ctx.task = other.task) (hagree : Form.Agree tree.answers ctx.data other.data) :
    expression.evaluate limits clock ctx = expression.evaluate limits clock other := by
  obtain ⟨values, user, task⟩ := ctx
  obtain ⟨others, _, _⟩ := other
  cases huser
  cases htask
  have hrecord : tree.record ⟨values, user, task⟩ = tree.record ⟨others, user, task⟩ :=
    Expr.eval_congr tree (Expr.sameAt_of_agree hnames hagree)
  simp only [Expression.evaluate, htree, Expr.eval_eq_under, hrecord]

/-- A rule that declares the answers that its expression names is local. -/
theorem Form.Rule.isLocal_of_names {setting : Setting} {declared : List String}
    (htree : expression.tree = .ok tree) (hnames : tree.NamesAnswers) (hdeclared : tree.answers ⊆ declared) :
    Form.Rule.IsLocal ⟨expression, declared⟩ setting := by
  intro values others hagree
  have hnamed : Form.Agree tree.answers values others := fun answer h => hagree answer (hdeclared h)
  have hsame := Expression.evaluate_congr setting.limits (setting.clock expression)
    ⟨values, setting.user, setting.task⟩ ⟨others, setting.user, setting.task⟩ htree hnames rfl rfl hnamed
  rw [Setting.ask?, Setting.ask?, hsame]

/-- An expression depends on no answers but those it names. If every path into the answers names one,
contexts that agree on the named answers give one result under all limits and for every clock, be it a
value or an error, as they cost the same and so are equally late. So a rule that declares them is local. If
such contexts give different results, some path into the answers is the bare `data`, computes the name of an
answer, or is `data.length`. -/
theorem reads_named_answers (expression : Expression) (tree : Expr) (htree : expression.tree = .ok tree) :
    (tree.NamesAnswers → ∀ limits clock ctx other, ctx.user = other.user → ctx.task = other.task →
      Form.Agree tree.answers ctx.data other.data →
      expression.evaluate limits clock ctx = expression.evaluate limits clock other) ∧
    (tree.NamesAnswers → ∀ setting declared, tree.answers ⊆ declared →
      Form.Rule.IsLocal ⟨expression, declared⟩ setting) ∧
    ∀ limits clock ctx other, ctx.user = other.user → ctx.task = other.task →
      Form.Agree tree.answers ctx.data other.data →
      expression.evaluate limits clock ctx ≠ expression.evaluate limits clock other →
      ∃ path ∈ tree.dataPaths, path = [] ∨ (∃ key rest, path = .index key :: rest) ∨
        ∃ rest, path = .field "length" :: rest := by
  refine ⟨fun hnames limits clock ctx other huser htask hagree => ?_,
    fun hnames setting declared hdeclared => ?_, fun limits clock ctx other huser htask hagree hne => ?_⟩
  · exact Expression.evaluate_congr limits clock ctx other htree hnames huser htask hagree
  · exact Form.Rule.isLocal_of_names htree hnames hdeclared
  · have hnot : ¬ tree.NamesAnswers := fun hnames =>
      hne (Expression.evaluate_congr limits clock ctx other htree hnames huser htask hagree)
    obtain ⟨path, hpath, hnone⟩ : ∃ path ∈ tree.dataPaths, Expr.firstAnswer? path = none := by
      by_contra hall
      exact hnot fun path hpath => Option.isSome_iff_ne_none.2 fun hnone => hall ⟨path, hpath, hnone⟩
    exact ⟨path, hpath, Expr.firstAnswer?_eq_none_iff.1 hnone⟩

/-- One of some answers is read at a place that another one says, and a third one has no part in it,
however the clock goes. It has in `data.length`, where no answer has that id. -/
theorem reads_named_answers_item :
    let item : Expr := .path .data [.field "items", .index (.path .data [.field "place"])]
    let length : Expr := .path .data [.field "length"]
    let few : Fields Json := [("items", .arr [.str "x"]), ("place", .int 0)]
    let more : Fields Json := [("place", .int 0), ("note", .null), ("items", .arr [.str "x"])]
    (∀ clock, Expression.evaluate ⟨"data.items[data.place]", .ok item⟩ {} clock ⟨few, .null, .null⟩ =
      Expression.evaluate ⟨"data.items[data.place]", .ok item⟩ {} clock ⟨more, .null, .null⟩) ∧
    Form.Rule.IsLocal ⟨⟨"data.items[data.place]", .ok item⟩, ["place", "items"]⟩ {} ∧
    (Expression.evaluate ⟨"data.length", .ok length⟩ {} .still ⟨few, .null, .null⟩ ≠
      Expression.evaluate ⟨"data.length", .ok length⟩ {} .still ⟨more, .null, .null⟩) ∧
    ∃ path ∈ length.dataPaths, path = [] ∨ (∃ key rest, path = .index key :: rest) ∨
      ∃ rest, path = .field "length" :: rest := by
  intro item length few more
  have hitem := reads_named_answers ⟨"data.items[data.place]", .ok item⟩ item rfl
  have hlength := reads_named_answers ⟨"data.length", .ok length⟩ length rfl
  have hagree : Form.Agree ["items", "place"] few more := by
    intro answer hanswer
    rcases List.mem_pair.1 hanswer with rfl | rfl <;> rfl
  have hdiffers : Expression.evaluate ⟨"data.length", .ok length⟩ {} .still ⟨few, .null, .null⟩ ≠
      Expression.evaluate ⟨"data.length", .ok length⟩ {} .still ⟨more, .null, .null⟩ := by
    intro h
    cases (Except.ok.inj h : Json.int 2 = Json.int 3)
  exact ⟨fun clock => hitem.1 (by decide) {} clock _ _ rfl rfl hagree, hitem.2.1 (by decide) {} _ (by decide),
    hdiffers, hlength.2.2 {} .still ⟨few, .null, .null⟩ ⟨more, .null, .null⟩ rfl rfl (fun _ h => nomatch h)
      hdiffers⟩

end Formwork
