import IndicatorScript.Proofs.Expr.Mentions
import IndicatorScript.Proofs.Run.Names

/-!
# Declarations that may be exchanged

A declaration evaluates an expression and binds its name to the result (`Statement.Declares`). Two declarations of
different names, of which neither mentions the name of the other, evaluate to the same in either order, and the contexts
that they leave give every name the same meaning (`Context.bind_comm`). The rest of a run cannot tell such contexts
apart (`Context.runFrom_same`).
-/

namespace IndicatorScript

variable {α : Type}

/-! ## Binding a name -/

/-- What a declaration binds its name to. -/
inductive Bound (α : Type) where
  | scalar (value : Value α)
  | series (values : List α)

def Bound.scalar? : Bound α → Option (Value α)
  | .scalar value => some value
  | .series _ => none

def Bound.series? : Bound α → Option (List α)
  | .scalar _ => none
  | .series values => some values

namespace Context

/-- The name stands for a scalar or for a series from here on, and no longer for the other. -/
def bind (context : Context α) (name : String) : Bound α → Context α
  | .scalar value => { context with
      scalars := context.scalars.insert name value
      series := context.series.erase name }
  | .series values => { context with
      scalars := context.scalars.erase name
      series := context.series.insert name values }

section Bind

variable (context : Context α) (name n : String) (bound : Bound α)

@[simp] theorem bars_bind : (context.bind name bound).bars = context.bars := by
  cases bound <;> rfl

@[simp] theorem parameters_bind : (context.bind name bound).parameters = context.parameters := by
  cases bound <;> rfl

@[simp] theorem study_bind : (context.bind name bound).study = context.study := by
  cases bound <;> rfl

theorem get?_scalars_bind :
    (context.bind name bound).scalars.get? n = if n = name then bound.scalar? else context.scalars.get? n := by
  cases bound with
  | scalar value => exact context.scalars.get?_insert name n value
  | series values => exact context.scalars.get?_erase name n

theorem get?_series_bind :
    (context.bind name bound).series.get? n = if n = name then bound.series? else context.series.get? n := by
  cases bound with
  | scalar value => exact context.series.get?_erase name n
  | series values => exact context.series.get?_insert name n values

end Bind

theorem sameOn_bind (context : Context α) {names : String → Prop} {name : String} (free : ¬ names name)
    (bound : Bound α) : context.SameOn names (context.bind name bound) := by
  have other {n : String} (mem : names n) : n ≠ name := fun same => free (same ▸ mem)
  refine ⟨context.bars_bind name bound, context.parameters_bind name bound, fun n mem => ?_, fun n mem => ?_⟩
  · rw [get?_scalars_bind, if_neg (other mem)]
  · rw [get?_series_bind, if_neg (other mem)]

/-- Contexts that no statement can tell apart. -/
structure Same (context other : Context α) : Prop where
  sameOn : context.SameOn (fun _ => True) other
  study : other.study = context.study

theorem Same.on {context other : Context α} (same : context.Same other) (names : String → Prop) :
    context.SameOn names other :=
  same.sameOn.mono fun _ _ => True.intro

theorem Same.bind {context other : Context α} (same : context.Same other) (name : String) (bound : Bound α) :
    (context.bind name bound).Same (other.bind name bound) := by
  refine ⟨⟨?_, ?_, fun n _ => ?_, fun n _ => ?_⟩, ?_⟩
  · rw [bars_bind, bars_bind, same.sameOn.bars]
  · rw [parameters_bind, parameters_bind, same.sameOn.parameters]
  · rw [get?_scalars_bind, get?_scalars_bind, same.sameOn.scalars n trivial]
  · rw [get?_series_bind, get?_series_bind, same.sameOn.series n trivial]
  · rw [study_bind, study_bind, same.study]

theorem bind_comm (context : Context α) {name name' : String} (different : name ≠ name') (bound bound' : Bound α) :
    ((context.bind name bound).bind name' bound').Same ((context.bind name' bound').bind name bound) := by
  have exchanged {β : Type} (n : String) (x x' y : β) :
      (if n = name then x else if n = name' then x' else y) = if n = name' then x' else if n = name then x else y := by
    by_cases here : n = name
    · rw [if_pos here, if_neg (here ▸ different), if_pos here]
    · rw [if_neg here, if_neg here]
  refine ⟨⟨by simp, by simp, fun n _ => ?_, fun n _ => ?_⟩, by simp⟩
  · simp only [get?_scalars_bind, exchanged]
  · simp only [get?_series_bind, exchanged]

end Context

/-! ## Declarations -/

def Statement.Mentions (statement : Statement α) (n : String) : Prop := ∃ e ∈ statement.expressions, e.Mentions n

variable [Number α]

/-- All that a declaration does is to bind its name to what this gives, which depends on the names that it mentions. -/
structure Statement.Declares (statement : Statement α) (name : String)
    (evaluate : Context α → Except (EvalError α) (Bound α)) : Prop where
  step : ∀ context : Context α,
    context.step statement = (evaluate context).map fun bound => (context.bind name bound, none)
  congr : ∀ {context other : Context α}, context.SameOn statement.Mentions other → evaluate other = evaluate context

theorem Statement.exists_declares {statement : Statement α} {name : String} (declares : statement.name? = some name) :
    ∃ evaluate, statement.Declares name evaluate := by
  cases statement with
  | study | plot => cases declares
  | scalar _ value =>
    obtain rfl := Option.some.inj declares
    refine ⟨fun context => (value.evalScalar context).map .scalar, fun context => ?_, fun same => ?_⟩
    · rw [Context.step]
      cases value.evalScalar context <;> rfl
    · rw [Expr.evalScalar_congr (same.mono fun _ mentions => ⟨value, List.mem_singleton_self value, mentions⟩)]
  | series _ value =>
    obtain rfl := Option.some.inj declares
    refine ⟨fun context => (value.evalDeclared context).map .series, fun context => ?_, fun same => ?_⟩
    · rw [Context.step]
      cases value.evalDeclared context <;> rfl
    · rw [Expr.evalDeclared_congr (same.mono fun _ mentions => ⟨value, List.mem_singleton_self value, mentions⟩)]

/-! ## Runs -/

/-- Runs that both fail, or that plot the same and leave contexts with the same meaning. -/
inductive Run.Same : Run α → Run α → Prop where
  | failed (context other : Context α) (err err' : EvalError α) : Same ⟨context, .error err⟩ ⟨other, .error err'⟩
  | ended {context other : Context α} (same : context.Same other) (plotted : List α) :
      Same ⟨context, .ok plotted⟩ ⟨other, .ok plotted⟩

namespace Context

variable {context other : Context α}

theorem step_same (same : context.Same other) (statement : Statement α) :
    (∃ err, context.step statement = .error err ∧ other.step statement = .error err) ∨
      ∃ next next' shown, context.step statement = .ok (next, shown) ∧ other.step statement = .ok (next', shown) ∧
        next.Same next' := by
  have sameOn := same.sameOn
  cases declares : statement.name? with
  | some name =>
    rcases Statement.exists_declares declares with ⟨evaluate, declares⟩
    rw [declares.step, declares.step, declares.congr (same.on _)]
    cases evaluate context with
    | error err => exact .inl ⟨err, rfl, rfl⟩
    | ok bound => exact .inr ⟨_, _, _, rfl, rfl, same.bind name bound⟩
  | none =>
    cases statement with
    | scalar | series => cases declares
    | study header =>
      exact .inr ⟨_, _, _, rfl, rfl, ⟨sameOn.bars, sameOn.parameters, sameOn.scalars, sameOn.series⟩, rfl⟩
    | plot value =>
      rw [step, step, Expr.evalDeclared_congr (same.on _)]
      cases value.evalDeclared context with
      | error err => exact .inl ⟨err, rfl, rfl⟩
      | ok values => exact .inr ⟨_, _, _, rfl, rfl, same⟩

theorem runFrom_same (same : context.Same other) (plotted : List α) (statements : List (Statement α)) :
    (context.runFrom plotted statements).Same (other.runFrom plotted statements) := by
  induction statements generalizing context other plotted with
  | nil => exact .ended same plotted
  | cons statement rest ih =>
    rw [runFrom, runFrom]
    rcases step_same same statement with ⟨err, fails, fails'⟩ | ⟨next, next', shown, stepped, stepped', further⟩
    · rw [fails, fails']
      exact .failed _ _ _ _
    · rw [stepped, stepped']
      exact ih further (shown.getD plotted)

section Exchange

variable {first second : Statement α} {name name' : String} (declares : first.name? = some name)
  (declares' : second.name? = some name') (different : name ≠ name') (free : ¬ first.Mentions name')
  (free' : ¬ second.Mentions name)

include declares declares' different free free'

theorem runFrom_exchange (context : Context α) (plotted : List α) (rest : List (Statement α)) :
    (context.runFrom plotted (first :: second :: rest)).Same (context.runFrom plotted (second :: first :: rest)) := by
  rcases Statement.exists_declares declares with ⟨evaluate, declares⟩
  rcases Statement.exists_declares declares' with ⟨evaluate', declares'⟩
  have unchanged (bound : Bound α) : evaluate (context.bind name' bound) = evaluate context :=
    declares.congr (context.sameOn_bind free bound)
  have unchanged' (bound : Bound α) : evaluate' (context.bind name bound) = evaluate' context :=
    declares'.congr (context.sameOn_bind free' bound)
  simp only [runFrom, declares.step, declares'.step]
  cases evaluated : evaluate context with
  | error err =>
    cases evaluated' : evaluate' context with
    | error err' => exact .failed _ _ _ _
    | ok bound' =>
      simp only [Except.map, unchanged, evaluated]
      exact .failed _ _ _ _
  | ok bound =>
    simp only [Except.map, unchanged']
    cases evaluated' : evaluate' context with
    | error err' => exact .failed _ _ _ _
    | ok bound' =>
      simp only [unchanged, evaluated]
      exact runFrom_same (context.bind_comm different bound bound') plotted rest

theorem run_same (limits : Limits) (context : Context α) (before after : List (Statement α)) :
    (context.run limits (before ++ first :: second :: after)).Same
      (context.run limits (before ++ second :: first :: after)) := by
  have length : (before ++ first :: second :: after).length = (before ++ second :: first :: after).length := by simp
  rw [run, run, length]
  split
  · exact .failed _ _ _ _
  · rcases reached : context.runFrom [] before with ⟨next, plot | plot⟩
    · rw [runFrom_append_of_error reached, runFrom_append_of_error reached]
      exact .failed _ _ _ _
    · rw [runFrom_append_of_ok reached, runFrom_append_of_ok reached]
      exact next.runFrom_exchange declares declares' different free free' plot after

end Exchange

end Context

theorem run_exchange (limits : Limits) (context : Context α) (before after : List (Statement α))
    {first second : Statement α} {name name' : String} (declares : first.name? = some name)
    (declares' : second.name? = some name') (different : name ≠ name') (free : ¬ first.Mentions name')
    (free' : ¬ second.Mentions name) :
    let run := context.run limits (before ++ first :: second :: after)
    let exchanged := context.run limits (before ++ second :: first :: after)
    ((∃ err, run.plotted = .error err) ↔ ∃ err, exchanged.plotted = .error err) ∧
      ∀ plot, run.plotted = .ok plot →
        exchanged.plotted = .ok plot ∧ exchanged.context.study = run.context.study ∧
        (∀ n, exchanged.context.scalars.get? n = run.context.scalars.get? n) ∧
        ∀ n, exchanged.context.series.get? n = run.context.series.get? n := by
  intro run exchanged
  have same : run.Same exchanged := Context.run_same declares declares' different free free' limits context before after
  generalize run = run at same
  generalize exchanged = exchanged at same
  cases same with
  | failed context other err err' => exact ⟨⟨fun _ => ⟨err', rfl⟩, fun _ => ⟨err, rfl⟩⟩, nofun⟩
  | ended same plotted =>
    refine ⟨⟨nofun, nofun⟩, fun plot plots => ⟨plots, same.study, fun n => ?_, fun n => ?_⟩⟩
    · exact same.sameOn.scalars n trivial
    · exact same.sameOn.series n trivial

theorem run_exchange_sample :
    let shift : Statement Float := .scalar "shift" (.number 2.0)
    let doubled : Statement Float := .series "doubled" (.binary (.call "close" []) (.arithmetic .multiply) (.number 2.0))
    let plot : Statement Float := .plot (.binary (.name "doubled") (.arithmetic .subtract) (.name "shift"))
    shift.name? = some "shift" ∧ doubled.name? = some "doubled" ∧ ¬ shift.Mentions "doubled" ∧
      ¬ doubled.Mentions "shift" ∧
      (Context.run {} { bars := Sample.bars } [doubled, shift, plot]).plotted = .ok [2.0, 6.0, 8.0] := by
  intro shift doubled plot
  have declares : shift.name? = some "shift" := rfl
  have declares' : doubled.name? = some "doubled" := rfl
  have free : ¬ shift.Mentions "doubled" := by
    simp [shift, Statement.Mentions, Statement.expressions, Expr.Mentions]
  have free' : ¬ doubled.Mentions "shift" := by
    simp [doubled, Statement.Mentions, Statement.expressions, Expr.Mentions]
  have plots : (Context.run {} { bars := Sample.bars } [shift, doubled, plot]).plotted = .ok [2.0, 6.0, 8.0] :=
    eq_ok_of_toOption (by decide +kernel)
  have exchange := run_exchange {} { bars := Sample.bars } [] [plot] declares declares' (by decide) free free'
  exact ⟨declares, declares', free, free', (exchange.2 _ plots).1⟩

end IndicatorScript
