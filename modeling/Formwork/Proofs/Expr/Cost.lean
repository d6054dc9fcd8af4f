import Mathlib.Data.List.Induction
import Formwork.Proofs.Expr.Meter

/-!
# What an evaluation costs, and what limits do to it

`Recorded` is a meter that writes every tick and every charge down and never stops an evaluation. An
evaluation under limits is the recorded one, paid for cost by cost (`Expr.eval_eq_under`), and goes as
far as the first cost that is over a limit, or the first tick at which the clock is over the time
(`Expression.evaluate_eq_recorded`): limits decide whether there is a value, never which.
-/

namespace Formwork

/-! ### Costs -/

/-- What an evaluation reports to its meter. -/
inductive Cost where
  | tick
  | charge (bytes : Nat)
deriving Repr, DecidableEq

namespace Cost

def bytes : Cost → Nat
  | tick => 0
  | charge bytes => bytes

/-- How many ticks there are. -/
def steps (costs : List Cost) : Nat := costs.count tick

/-- The sum of the charges, which stops at the greatest number that is told apart from more. -/
def total (costs : List Cost) : Nat :=
  costs.foldl (fun sum cost => min (sum + cost.bytes) Metered.maxBytes) 0

theorem steps_concat (costs : List Cost) (cost : Cost) :
    steps (costs ++ [cost]) = steps costs + if cost = tick then 1 else 0 := by
  rw [steps, List.count_append, List.count_singleton]
  simp [steps]

theorem total_concat (costs : List Cost) (cost : Cost) :
    total (costs ++ [cost]) = min (total costs + cost.bytes) Metered.maxBytes := by
  rw [total, List.foldl_append]; rfl

theorem total_le (costs : List Cost) : total costs ≤ Metered.maxBytes := by
  induction costs using List.reverseRecOn with
  | nil => exact Nat.zero_le _
  | append_singleton costs cost _ => rw [total_concat]; exact Nat.min_le_right _ _

theorem total_concat_tick (costs : List Cost) : total (costs ++ [tick]) = total costs := by
  rw [total_concat]; exact Nat.min_eq_left (total_le costs)

end Cost

/-- Evaluations that write down what they cost, in order, and stop for no cost. There is no value
where they divide by zero. -/
def Recorded (α : Type) : Type := List Cost × Option α

namespace Recorded

variable {α : Type}

def costs (record : Recorded α) : List Cost := record.1

def value? (record : Recorded α) : Option α := record.2

instance : Monad Recorded where
  pure value := ([], some value)
  bind record next :=
    match record.value? with
    | some value => (record.costs ++ (next value).costs, (next value).value?)
    | none => (record.costs, none)

instance : Meter Recorded where
  tick := ([.tick], some ())
  charge bytes := ([.charge bytes], some ())
  divisionByZero := ([], none)

/-- The value, or that there is none. -/
def outcome (record : Recorded α) : Except ExprError α :=
  match record.value? with
  | some value => .ok value
  | none => .error .divisionByZero

end Recorded

/-! ### Limits -/

namespace Limits

variable {limits wider : Limits} {clock later : Clock} {before costs more : List Cost} {cost : Cost}

/-- Some costs do not go over the limits, and the clock is in time at each of their ticks. -/
structure Allows (limits : Limits) (clock : Clock) (costs : List Cost) : Prop where
  steps : Cost.steps costs ≤ limits.maxSteps
  time : ∀ step < Cost.steps costs, clock step ≤ limits.timeBudget
  total : Cost.total costs ≤ limits.maxMemoryBytes

instance (limits : Limits) (clock : Clock) (costs : List Cost) : Decidable (limits.Allows clock costs) :=
  decidable_of_iff (Cost.steps costs ≤ limits.maxSteps ∧
      (∀ step < Cost.steps costs, clock step ≤ limits.timeBudget) ∧ Cost.total costs ≤ limits.maxMemoryBytes)
    ⟨fun h => ⟨h.1, h.2.1, h.2.2⟩, fun h => ⟨h.steps, h.time, h.total⟩⟩

/-- What is spent after one more cost. -/
def pay (limits : Limits) (clock : Clock) (spent : Spent) : Cost → Except ExprError Spent
  | .tick => ((Meter.tick : Metered limits clock Unit) spent).map (·.2)
  | .charge bytes => ((Meter.charge bytes : Metered limits clock Unit) spent).map (·.2)

/-- What is spent after some more costs. -/
def payAll (limits : Limits) (clock : Clock) (spent : Spent) (costs : List Cost) : Except ExprError Spent :=
  costs.foldlM (limits.pay clock) spent

theorem payAll_append (spent : Spent) :
    limits.payAll clock spent (costs ++ more) =
      (limits.payAll clock spent costs).bind (limits.payAll clock · more) :=
  List.foldlM_append

theorem pay_tick (spent : Spent) : limits.pay clock spent .tick =
    if limits.maxSteps < spent.steps + 1 then .error (.stepLimit limits.maxSteps)
    else if limits.timeBudget < clock spent.steps then .error (.timeout limits.timeBudgetMs)
    else .ok { spent with steps := spent.steps + 1 } := by
  simp only [pay, Meter.tick]
  split
  · rfl
  · split <;> rfl

theorem pay_charge (spent : Spent) (bytes : Nat) : limits.pay clock spent (.charge bytes) =
    if min (spent.bytes + bytes) Metered.maxBytes ≤ limits.maxMemoryBytes then
      .ok { spent with bytes := min (spent.bytes + bytes) Metered.maxBytes }
    else .error (.memoryLimit limits.maxMemoryBytes) := by
  simp only [pay, Meter.charge]
  split <;> rfl

theorem Allows.of_concat (h : limits.Allows clock (before ++ [cost])) : limits.Allows clock before := by
  obtain ⟨hsteps, htime, htotal⟩ := h
  rw [Cost.steps_concat] at hsteps htime
  rw [Cost.total_concat] at htotal
  have hle := Cost.total_le before
  exact ⟨by omega, fun step hstep => htime step (by omega), by omega⟩

theorem Allows.of_prefix (h : limits.Allows clock costs) (hinitial : before <+: costs) :
    limits.Allows clock before := by
  obtain ⟨more, rfl⟩ := hinitial
  induction more using List.reverseRecOn with
  | nil => rwa [List.append_nil] at h
  | append_singleton more cost ih =>
    rw [← List.append_assoc] at h
    exact ih h.of_concat

theorem Allows.mono (h : limits.Allows clock costs) (hsteps : limits.maxSteps ≤ wider.maxSteps)
    (htime : ∀ step, clock step ≤ limits.timeBudget → later step ≤ wider.timeBudget)
    (hbytes : limits.maxMemoryBytes ≤ wider.maxMemoryBytes) : wider.Allows later costs :=
  ⟨Nat.le_trans h.steps hsteps, fun step hstep => htime step (h.time step hstep),
    Nat.le_trans h.total hbytes⟩

/-- Costs within the limits are paid in full. -/
theorem payAll_of_allows (h : limits.Allows clock costs) :
    limits.payAll clock {} costs = .ok ⟨Cost.steps costs, Cost.total costs⟩ := by
  -- by the last cost: what was spent before it is what the costs before it add up to
  induction costs using List.reverseRecOn with
  | nil => rfl
  | append_singleton before cost ih =>
    rw [payAll_append, ih h.of_concat]
    obtain ⟨hsteps, htime, htotal⟩ := h
    show (limits.pay clock _ cost).bind pure = _
    cases cost with
    | tick =>
      rw [Cost.steps_concat, if_pos rfl] at hsteps htime
      have hintime := htime (Cost.steps before) (Nat.lt_succ_self _)
      rw [pay_tick, if_neg (Nat.not_lt.2 hsteps), if_neg (Nat.not_lt.2 hintime), Cost.steps_concat, if_pos rfl,
        Cost.total_concat_tick]
      rfl
    | charge bytes =>
      rw [Cost.total_concat] at htotal
      change min (Cost.total before + bytes) Metered.maxBytes ≤ _ at htotal
      rw [pay_charge, if_pos htotal, Cost.steps_concat, if_neg (by simp), Cost.total_concat]; rfl

/-- Costs that go over the limits do so with one of them. -/
theorem exists_first_over (h : ¬ limits.Allows clock costs) : ∃ before cost more,
    costs = before ++ cost :: more ∧ limits.Allows clock before ∧
      ¬ limits.Allows clock (before ++ [cost]) := by
  induction costs using List.reverseRecOn with
  | nil => exact absurd ⟨Nat.zero_le _, fun _ h => absurd h (Nat.not_lt_zero _), Nat.zero_le _⟩ h
  | append_singleton costs last ih =>
    by_cases hcosts : limits.Allows clock costs
    · exact ⟨costs, last, [], rfl, hcosts, h⟩
    · obtain ⟨before, cost, more, rfl, hbefore, hover⟩ := ih hcosts
      exact ⟨before, cost, more ++ [last], by simp, hbefore, hover⟩

theorem not_allows_iff :
    ¬ limits.Allows clock costs ↔
      limits.maxSteps < Cost.steps costs ∨
      (Cost.steps costs ≤ limits.maxSteps ∧ ∃ step < Cost.steps costs, limits.timeBudget < clock step) ∨
      limits.maxMemoryBytes < Cost.total costs := by
  constructor
  · intro h
    by_contra hnone
    rw [not_or, not_or, Nat.not_lt, Nat.not_lt] at hnone
    obtain ⟨hsteps, htime, htotal⟩ := hnone
    refine h ⟨hsteps, fun step hstep => ?_, htotal⟩
    by_contra hover
    exact htime ⟨hsteps, step, hstep, Nat.lt_of_not_le hover⟩
  · rintro (hover | ⟨-, step, hstep, hover⟩ | hover) h
    · exact Nat.not_lt.2 h.steps hover
    · exact Nat.not_lt.2 (h.time step hstep) hover
    · exact Nat.not_lt.2 h.total hover

/-- A cost with which there are too many steps stops the payment. -/
theorem payAll_of_steps_lt (hbefore : limits.Allows clock before)
    (hover : limits.maxSteps < Cost.steps (before ++ [cost])) :
    limits.payAll clock {} (before ++ cost :: more) = .error (.stepLimit limits.maxSteps) := by
  rw [payAll_append, payAll_of_allows hbefore]
  show (limits.pay clock _ cost).bind _ = _
  rw [Cost.steps_concat] at hover
  have hsteps := hbefore.steps
  cases cost with
  | tick =>
    rw [if_pos rfl] at hover
    rw [pay_tick, if_pos hover]; rfl
  | charge bytes =>
    rw [if_neg (by simp)] at hover
    omega

/-- A tick at which the clock is over the time stops the payment. -/
theorem payAll_of_time_lt (hbefore : limits.Allows clock before)
    (hsteps : Cost.steps (before ++ [cost]) ≤ limits.maxSteps)
    (hover : ∃ step < Cost.steps (before ++ [cost]), limits.timeBudget < clock step) :
    limits.payAll clock {} (before ++ cost :: more) = .error (.timeout limits.timeBudgetMs) := by
  rw [payAll_append, payAll_of_allows hbefore]
  show (limits.pay clock _ cost).bind _ = _
  obtain ⟨step, hstep, hover⟩ := hover
  have hnew : ¬ step < Cost.steps before := fun hold => Nat.not_lt.2 (hbefore.time step hold) hover
  rw [Cost.steps_concat] at hsteps hstep
  cases cost with
  | tick =>
    rw [if_pos rfl] at hsteps hstep
    have hlast : step = Cost.steps before := by omega
    subst hlast
    rw [pay_tick, if_neg (Nat.not_lt.2 hsteps), if_pos hover]; rfl
  | charge bytes =>
    rw [if_neg (by simp)] at hstep
    exact absurd hstep hnew

/-- A cost with which there are too many bytes stops the payment. -/
theorem payAll_of_total_lt (hbefore : limits.Allows clock before)
    (hover : limits.maxMemoryBytes < Cost.total (before ++ [cost])) :
    limits.payAll clock {} (before ++ cost :: more) = .error (.memoryLimit limits.maxMemoryBytes) := by
  rw [payAll_append, payAll_of_allows hbefore]
  show (limits.pay clock _ cost).bind _ = _
  have htotal := hbefore.total
  cases cost with
  | tick =>
    rw [Cost.total_concat_tick] at hover
    omega
  | charge bytes =>
    rw [Cost.total_concat] at hover
    have hnot : ¬ min (Cost.total before + bytes) Metered.maxBytes ≤ limits.maxMemoryBytes :=
      Nat.not_le.2 hover
    rw [pay_charge, if_neg hnot]; rfl

end Limits

/-! ### Evaluations under limits -/

/-- The evaluation under limits that pays for what another one records, and then has its outcome. -/
def Recorded.under {α : Type} (record : Recorded α) (limits : Limits) (clock : Clock) :
    Metered limits clock α := fun spent =>
  match limits.payAll clock spent record.costs with
  | .error error => .error error
  | .ok spent =>
    match record.value? with
    | some value => .ok (value, spent)
    | none => .error .divisionByZero

namespace Recorded

variable {α β : Type} {limits : Limits} {clock : Clock}

theorem metered_bind (run : Metered limits clock α) (next : α → Metered limits clock β) (spent : Spent) :
    (run >>= next) spent = (run spent).bind fun paid => next paid.1 paid.2 := by
  simp only [bind]
  cases run spent <;> rfl

theorem under_bind (record : Recorded α) (next : α → Recorded β) :
    (record >>= next).under limits clock =
      record.under limits clock >>= fun value => (next value).under limits clock := by
  funext spent
  rw [metered_bind]
  obtain ⟨costs, value?⟩ := record
  cases value? with
  | none =>
    show under (costs, none) limits clock spent = (under (costs, none) limits clock spent).bind _
    simp only [under, Recorded.costs, Recorded.value?]
    cases limits.payAll clock spent costs <;> rfl
  | some value =>
    show under (costs ++ (next value).costs, (next value).value?) limits clock spent =
      (under (costs, some value) limits clock spent).bind _
    simp only [under, Recorded.costs, Recorded.value?, Limits.payAll_append]
    cases limits.payAll clock spent costs <;> rfl

theorem under_single (cost : Cost) (run : Metered limits clock Unit)
    (hpay : ∀ spent, limits.pay clock spent cost = (run spent).map (·.2)) :
    run = under ([cost], some ()) limits clock := by
  funext spent
  have hpaid : limits.payAll clock spent [cost] = (limits.pay clock spent cost).bind pure := rfl
  simp only [under, Recorded.costs, Recorded.value?, hpaid, hpay]
  cases run spent <;> rfl

/-- What the meter with limits does is what the meter that writes down has recorded, paid for. -/
theorem under_related (limits : Limits) (clock : Clock) :
    Meter.Related (m := Metered limits clock) (n := Recorded)
      fun _ run record => run = record.under limits clock where
  pure value := rfl
  bind {α β x y f g} hxy hfg := by
    rw [under_bind, hxy]
    exact congrArg _ (funext hfg)
  tick := under_single .tick Meter.tick fun _ => rfl
  charge bytes := under_single (.charge bytes) (Meter.charge bytes) fun _ => rfl
  divisionByZero := rfl

end Recorded

namespace Expr

variable (tree : Expr) (ctx : Context)

/-- The evaluation without limits. -/
def record : Recorded Json := tree.eval ctx

theorem eval_eq_under (limits : Limits) (clock : Clock) :
    (tree.eval ctx : Metered limits clock Json) = (tree.record ctx).under limits clock :=
  (Recorded.under_related limits clock).eval ctx tree

end Expr

namespace Expression

variable {source : String} {tree : Expr} {ctx : Context} {limits : Limits} {clock : Clock}
  {before more : List Cost} {cost : Cost}

theorem evaluate_eq_payAll (source : String) (tree : Expr) (limits : Limits) (clock : Clock) (ctx : Context) :
    evaluate ⟨source, .ok tree⟩ limits clock ctx =
      (limits.payAll clock {} (tree.record ctx).costs).bind fun _ => (tree.record ctx).outcome := by
  show Metered.run (tree.eval ctx) = _
  rw [Expr.eval_eq_under]
  simp only [Metered.run, Recorded.under, Recorded.outcome]
  cases limits.payAll clock {} (tree.record ctx).costs with
  | error error => rfl
  | ok spent => cases (tree.record ctx).value? <;> rfl

theorem evaluate_of_allows (h : limits.Allows clock (tree.record ctx).costs) :
    evaluate ⟨source, .ok tree⟩ limits clock ctx = (tree.record ctx).outcome := by
  rw [evaluate_eq_payAll, Limits.payAll_of_allows h]; rfl

section

variable (hcosts : before ++ cost :: more = (tree.record ctx).costs) (hbefore : limits.Allows clock before)
include hcosts hbefore

theorem evaluate_of_steps_lt (hover : limits.maxSteps < Cost.steps (before ++ [cost])) :
    evaluate ⟨source, .ok tree⟩ limits clock ctx = .error (.stepLimit limits.maxSteps) := by
  rw [evaluate_eq_payAll, ← hcosts, Limits.payAll_of_steps_lt hbefore hover]; rfl

theorem evaluate_of_time_lt (hsteps : Cost.steps (before ++ [cost]) ≤ limits.maxSteps)
    (hover : ∃ step < Cost.steps (before ++ [cost]), limits.timeBudget < clock step) :
    evaluate ⟨source, .ok tree⟩ limits clock ctx = .error (.timeout limits.timeBudgetMs) := by
  rw [evaluate_eq_payAll, ← hcosts, Limits.payAll_of_time_lt hbefore hsteps hover]; rfl

theorem evaluate_of_total_lt (hover : limits.maxMemoryBytes < Cost.total (before ++ [cost])) :
    evaluate ⟨source, .ok tree⟩ limits clock ctx = .error (.memoryLimit limits.maxMemoryBytes) := by
  rw [evaluate_eq_payAll, ← hcosts, Limits.payAll_of_total_lt hbefore hover]; rfl

end

/-- Either all costs are within the limits, or one of the limits fails the evaluation. -/
theorem allows_or_fails (source : String) (tree : Expr) (limits : Limits) (clock : Clock) (ctx : Context) :
    limits.Allows clock (tree.record ctx).costs ∨
      ∃ error, evaluate ⟨source, .ok tree⟩ limits clock ctx = .error error ∧
        (error = .stepLimit limits.maxSteps ∨
          (error = .timeout limits.timeBudgetMs ∧ ∃ step, limits.timeBudget < clock step) ∨
          error = .memoryLimit limits.maxMemoryBytes) := by
  by_cases h : limits.Allows clock (tree.record ctx).costs
  · exact .inl h
  · obtain ⟨before, cost, more, hcosts, hbefore, hnot⟩ := Limits.exists_first_over h
    rcases Limits.not_allows_iff.1 hnot with hover | ⟨hsteps, hover⟩ | hover
    · exact .inr ⟨_, evaluate_of_steps_lt hcosts.symm hbefore hover, .inl rfl⟩
    · obtain ⟨step, -, hlate⟩ := id hover
      exact .inr ⟨_, evaluate_of_time_lt hcosts.symm hbefore hsteps hover, .inr (.inl ⟨rfl, step, hlate⟩)⟩
    · exact .inr ⟨_, evaluate_of_total_lt hcosts.symm hbefore hover, .inr (.inr rfl)⟩

theorem outcome_eq_or (record : Recorded Json) :
    (∃ value, record.outcome = .ok value) ∨ record.outcome = .error .divisionByZero := by
  obtain ⟨costs, value?⟩ := record
  cases value? with
  | none => exact .inr rfl
  | some value => exact .inl ⟨value, rfl⟩

/-- Limits stop an evaluation at the first of its costs that goes over one of them, or at the first tick
that is late, and change nothing else. So what has a value, or divides by zero, does so under wider limits
too, unless the clock goes over the time then. Nothing else can go wrong, and a clock that is never over
the time makes nothing late. -/
theorem evaluate_eq_recorded (source : String) (tree : Expr) (limits : Limits) (clock : Clock)
    (ctx : Context) :
    let expression : Expression := ⟨source, .ok tree⟩
    let record := tree.record ctx
    ((∀ before, before <+: record.costs → limits.Allows clock before) →
      expression.evaluate limits clock ctx = record.outcome) ∧
    (∀ before cost, before ++ [cost] <+: record.costs →
      (∀ earlier, earlier <+: before → limits.Allows clock earlier) →
      (limits.maxSteps < Cost.steps (before ++ [cost]) →
        expression.evaluate limits clock ctx = .error (.stepLimit limits.maxSteps)) ∧
      (Cost.steps (before ++ [cost]) ≤ limits.maxSteps →
        (∃ step < Cost.steps (before ++ [cost]), limits.timeBudget < clock step) →
        expression.evaluate limits clock ctx = .error (.timeout limits.timeBudgetMs)) ∧
      (limits.maxMemoryBytes < Cost.total (before ++ [cost]) →
        expression.evaluate limits clock ctx = .error (.memoryLimit limits.maxMemoryBytes))) ∧
    (∀ (wider : Limits) (later : Clock), limits.maxSteps ≤ wider.maxSteps →
      (∀ step, clock step ≤ limits.timeBudget → later step ≤ wider.timeBudget) →
      limits.maxMemoryBytes ≤ wider.maxMemoryBytes →
      (∀ value, expression.evaluate limits clock ctx = .ok value →
        expression.evaluate wider later ctx = .ok value) ∧
      (expression.evaluate limits clock ctx = .error .divisionByZero →
        expression.evaluate wider later ctx = .error .divisionByZero)) ∧
    ∀ error, expression.evaluate limits clock ctx = .error error →
      error = .divisionByZero ∨ error = .stepLimit limits.maxSteps ∨
        (error = .timeout limits.timeBudgetMs ∧ ∃ step, limits.timeBudget < clock step) ∨
        error = .memoryLimit limits.maxMemoryBytes := by
  intro expression record
  refine ⟨fun h => evaluate_of_allows (h _ List.prefix_rfl), ?_, ?_, ?_⟩
  · rintro before cost ⟨more, hcosts⟩ hbefore
    rw [List.append_assoc, List.singleton_append] at hcosts
    have hallows := hbefore before List.prefix_rfl
    exact ⟨evaluate_of_steps_lt hcosts hallows, evaluate_of_time_lt hcosts hallows,
      evaluate_of_total_lt hcosts hallows⟩
  · intro wider later hsteps htime hbytes
    rcases allows_or_fails source tree limits clock ctx with h | ⟨error, h, hlimit⟩
    · have hwider : expression.evaluate wider later ctx = expression.evaluate limits clock ctx := by
        rw [evaluate_of_allows h, evaluate_of_allows (h.mono hsteps htime hbytes)]
      rw [hwider]
      exact ⟨fun _ hvalue => hvalue, id⟩
    · rw [show expression.evaluate limits clock ctx = _ from h]
      refine ⟨fun _ hvalue => (nomatch hvalue), fun herror => ?_⟩
      cases herror
      rcases hlimit with hlimit | ⟨hlimit, -⟩ | hlimit <;> cases hlimit
  · intro error herror
    rcases allows_or_fails source tree limits clock ctx with h | ⟨failed, h, hlimit⟩
    · rw [evaluate_of_allows h] at herror
      rcases outcome_eq_or (tree.record ctx) with ⟨value, hvalue⟩ | hdivision
      · rw [hvalue] at herror; cases herror
      · rw [hdivision] at herror; cases herror
        exact .inl rfl
    · rw [h] at herror; cases herror
      exact .inr hlimit

/-- The length of a text takes two steps and the bytes of a number: one byte less and memory runs
out, and with a clock that is over the time at the second step there is no time for it. -/
theorem evaluate_eq_recorded_length :
    let expression : Expression := ⟨"len('ab')", .ok (.call .len [.literal (.str "ab")])⟩
    let ctx : Context := ⟨[], .null, .null⟩
    expression.evaluate { maxSteps := 2, maxMemoryBytes := 72 } .still ctx = .ok (.int 2) ∧
    expression.evaluate { maxSteps := 3, maxMemoryBytes := 80 } .still ctx = .ok (.int 2) ∧
    expression.evaluate { maxSteps := 2, maxMemoryBytes := 71 } .still ctx = .error (.memoryLimit 71) ∧
    expression.evaluate { timeBudgetMs := 0 } id ctx = .error (.timeout 0) := by
  intro expression ctx
  have hcosts : ((Expr.call .len [.literal (.str "ab")]).record ctx).costs = [.tick, .tick, .charge 72] := by
    decide
  have hexact := evaluate_eq_recorded "len('ab')" (.call .len [.literal (.str "ab")])
    { maxSteps := 2, maxMemoryBytes := 72 } .still ctx
  have hless := evaluate_eq_recorded "len('ab')" (.call .len [.literal (.str "ab")])
    { maxSteps := 2, maxMemoryBytes := 71 } .still ctx
  have hlate := evaluate_eq_recorded "len('ab')" (.call .len [.literal (.str "ab")])
    { timeBudgetMs := 0 } id ctx
  have hall {limits : Limits} {clock : Clock} {costs : List Cost} (h : limits.Allows clock costs) :
      ∀ before, before <+: costs → limits.Allows clock before := fun _ => h.of_prefix
  have hvalue : expression.evaluate { maxSteps := 2, maxMemoryBytes := 72 } .still ctx = .ok (.int 2) :=
    hexact.1 (hall (hcosts ▸ by decide))
  refine ⟨hvalue, ?_, ?_, ?_⟩
  · exact (hexact.2.2.1 { maxSteps := 3, maxMemoryBytes := 80 } .still (by decide) (fun _ h => h)
      (by decide)).1 _ hvalue
  · exact (hless.2.1 [.tick, .tick] (.charge 72) (hcosts ▸ List.prefix_rfl) (hall (by decide))).2.2 (by decide)
  · refine (hlate.2.1 [.tick] .tick (hcosts ▸ ⟨[.charge 72], rfl⟩) (hall (by decide))).2.1 (by decide) ?_
    exact ⟨1, by decide, by decide⟩

end Expression
end Formwork
