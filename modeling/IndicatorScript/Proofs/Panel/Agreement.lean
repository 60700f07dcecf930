import IndicatorScript.Panel.Run

/-!
# Bars with one column of each price

Over bars with one column of each price nothing becomes a table, and expressions, statements and runs are what they are
without tables (`evalSeries_single`, `run_single`). A script that is executed over such bars by an interpreter that does
not stop it is executed as if there were no tables (`execute_unbounded`).
-/

namespace IndicatorScript

variable {α : Type}

namespace Panel

/-- The context over bars with one column of each price, where nothing is kept as a table. -/
def single (context : IndicatorScript.Context α) : Context α := { context with further := fun _ => [] }

theorem hasSeries_single (context : IndicatorScript.Context α) : (single context).hasSeries = context.hasSeries := by
  funext name
  exact Bool.or_false (context.hasSeries name)

theorem price_single (context : IndicatorScript.Context α) (column : Price) :
    (single context).price column = .single (context.bars.map (·.price column)) :=
  rfl

theorem values_single (context : IndicatorScript.Context α) (name : String) :
    (((single context).tables.get? name).map Series.several).or (((single context).series.get? name).map .single) =
      (context.series.get? name).map .single :=
  rfl

theorem scalar?_single (context : IndicatorScript.Context α) (name : String) :
    (single context).scalar? name = context.scalar? name :=
  rfl

def lift : IndicatorScript.Operand α → Operand α
  | .scalar x => .scalar x
  | .series values => .series (.single values)

@[simp] theorem single?_lift (x : IndicatorScript.Operand α) : (lift x).single? = some x := by
  cases x <;> rfl

theorem bind_map_of {β β' γ γ' ε : Type} {result : Except ε β} {f : β → β'} {next : β → Except ε γ}
    {next' : β' → Except ε γ'} {g : γ → γ'} (each : ∀ x, next' (f x) = (next x).map g) :
    (result.map f >>= next') = (result >>= next).map g := by
  cases result with
  | error e => rfl
  | ok x => exact each x

theorem bind_of {β γ γ' ε : Type} {result : Except ε β} {next : β → Except ε γ} {next' : β → Except ε γ'} {g : γ → γ'}
    (each : ∀ x, next' x = (next x).map g) : (result >>= next') = (result >>= next).map g := by
  cases result with
  | error e => rfl
  | ok x => exact each x

variable [Number α] (context : IndicatorScript.Context α)

theorem positionIn_single (series : String) (values : List α) (index : α) :
    positionIn series (.single values) index = Expr.positionIn series values index := by
  unfold positionIn
  change Expr.positionIn series values index >>= _ = _
  cases Expr.positionIn series values index <;> rfl

theorem evalScalar_single (e : Expr α) : evalScalar (single context) e = e.evalScalar context := by
  induction e using Expr.induction with
  | number | text | boolean => rfl
  | name n => rfl
  | call function arguments ih =>
    unfold evalScalar Expr.evalScalar
    cases Builtin.ofName? function with
    | none => rfl
    | some builtin =>
      -- other numbers of arguments are the same error on both sides
      cases builtin with
      | price | composite | windowed | convergence | band => rfl
      | magnitude =>
        rcases arguments with _ | ⟨x, _ | ⟨_, _⟩⟩
        · rfl
        · dsimp only
          rw [ih x (by simp)]
        · rfl
      | choice which =>
        rcases arguments with _ | ⟨x, _ | ⟨y, _ | ⟨_, _⟩⟩⟩
        · rfl
        · rfl
        · dsimp only
          rw [ih x (by simp), ih y (by simp)]
        · rfl
      | input =>
        rcases arguments with _ | ⟨title, _ | ⟨default, _ | ⟨_, _⟩⟩⟩
        · rfl
        · dsimp only
          rw [ih title (by simp)]
          rfl
        · dsimp only
          rw [ih title (by simp), ih default (by simp)]
          rfl
        · rfl
  | binary left op right ihLeft ihRight =>
    unfold evalScalar Expr.evalScalar
    rw [ihLeft, ihRight]
  | index series position ih =>
    unfold evalScalar Expr.evalScalar
    rw [ih, values_single]
    cases context.series.get? series with
    | none => rfl
    | some values => simp only [Option.map_some, positionIn_single]

/-! ## Series -/

theorem evalConstant_single (e : Expr α) :
    evalConstant (single context) e = (e.evalConstant context).map .single := by
  unfold evalConstant Expr.evalConstant
  rw [evalScalar_single]
  exact bind_of fun value => bind_of fun x => rfl

theorem operandOf_single {e : Expr α} (series : evalSeries (single context) e = (e.evalSeries context).map .single) :
    operandOf (single context) e (fun _ => evalSeries (single context) e) =
      (Expr.operandOf context e fun _ => e.evalSeries context).map lift := by
  unfold operandOf Expr.operandOf
  rw [hasSeries_single, series, evalScalar_single]
  split
  · exact bind_map_of fun values => rfl
  · exact bind_of fun value => bind_of fun x => rfl

theorem composite_single (bars : List (Bar α)) (average : Composite) :
    composite bars (fun _ => []) average = .ok (.single (bars.map (·.composite average))) := by
  cases average <;> rfl

theorem windowed_single (indicator : Windowed) (length : Nat) (values : List α) :
    (Series.single values).windowed indicator length = .ok (.single (indicator.apply length values)) := by
  cases indicator <;> rfl

theorem abs_lift (bars : Nat) (x : IndicatorScript.Operand α) :
    (lift x).abs bars = .ok (.single (x.map bars Number.abs)) := by
  rw [Operand.abs, single?_lift]

theorem choose_lift (bars : Nat) (which : Choice) (x y : IndicatorScript.Operand α) :
    Operand.choose bars which (lift x) (lift y) =
      (do x.checkAligned y; .ok (x.zipWith bars which.apply y) : Except (EvalError α) (List α)).map .single := by
  rw [Operand.choose, single?_lift, single?_lift]
  exact bind_of fun _ => rfl

theorem applySeries_lift (bars : Nat) (op : Operator) (x y : IndicatorScript.Operand α) :
    applySeries bars op (lift x) (lift y) = (op.applySeries bars x y).map .single := by
  rw [applySeries, single?_lift, single?_lift]

theorem evalSeries_single (e : Expr α) : evalSeries (single context) e = (e.evalSeries context).map .single := by
  induction e using Expr.induction with
  | number | text | boolean | index => exact evalConstant_single context _
  | name n =>
    unfold evalSeries Expr.evalSeries
    rw [values_single, scalar?_single]
    cases context.series.get? n with
    | some values => rfl
    | none =>
      cases context.scalar? n with
      | some value => exact bind_of fun x => rfl
      | none => rfl
  | call function arguments ih =>
    have operand {a : Expr α} (mem : a ∈ arguments) := operandOf_single context (ih a mem)
    unfold evalSeries Expr.evalSeries
    cases Builtin.ofName? function with
    | none => rfl
    | some builtin =>
      -- other numbers of arguments are the same error on both sides
      cases builtin with
      | price column =>
        rcases arguments with _ | ⟨_, _⟩
        · rfl
        · rfl
      | composite average =>
        rcases arguments with _ | ⟨_, _⟩
        · exact composite_single context.bars average
        · rfl
      | windowed indicator =>
        rcases arguments with _ | ⟨x, _ | ⟨n, _ | ⟨_, _⟩⟩⟩
        · rfl
        · rfl
        · dsimp only
          rw [ih x (by simp), evalScalar_single]
          exact bind_map_of fun values => bind_of fun value => bind_of fun length =>
            windowed_single indicator length values
        · rfl
      | convergence part =>
        rcases arguments with _ | ⟨x, _ | ⟨f, _ | ⟨s, _ | ⟨_, _⟩⟩⟩⟩
        · rfl
        · rfl
        · rfl
        · dsimp only
          rw [ih x (by simp), evalScalar_single, evalScalar_single]
          exact bind_map_of fun values => bind_of fun value => bind_of fun fast => bind_of fun value =>
            bind_of fun slow => rfl
        · rfl
      | band line =>
        rcases arguments with _ | ⟨x, _ | ⟨n, _ | ⟨k, _ | ⟨_, _⟩⟩⟩⟩
        · rfl
        · rfl
        · rfl
        · dsimp only
          rw [ih x (by simp), evalScalar_single, evalScalar_single]
          exact bind_map_of fun values => bind_of fun value => bind_of fun length => bind_of fun value =>
            bind_of fun multiple => rfl
        · rfl
      | magnitude =>
        rcases arguments with _ | ⟨x, _ | ⟨_, _⟩⟩
        · rfl
        · dsimp only
          rw [operand (by simp)]
          exact bind_map_of fun x => abs_lift _ x
        · rfl
      | choice which =>
        rcases arguments with _ | ⟨x, _ | ⟨y, _ | ⟨_, _⟩⟩⟩
        · rfl
        · rfl
        · dsimp only
          rw [operand (by simp), operand (by simp)]
          exact bind_map_of fun x => bind_map_of fun y => choose_lift _ which x y
        · rfl
      | input => exact evalConstant_single context (.call function arguments)
  | binary left op right ihLeft ihRight =>
    unfold evalSeries Expr.evalSeries
    rw [operandOf_single context ihLeft, operandOf_single context ihRight]
    exact bind_map_of fun x => bind_map_of fun y => applySeries_lift _ op x y

theorem evalDeclared_single (e : Expr α) :
    evalDeclared (single context) e = (e.evalDeclared context).map .single := by
  unfold evalDeclared Expr.evalDeclared
  rw [hasSeries_single, evalSeries_single, evalConstant_single]
  split <;> rfl

/-! ## Statements -/

theorem step_single (statement : Statement α) :
    (single context).step statement =
      (context.step statement).map fun (next, plot) => (single next, plot.map .single) := by
  cases statement with
  | study header => rfl
  | scalar name value =>
    unfold Context.step IndicatorScript.Context.step
    dsimp only
    rw [evalScalar_single]
    exact bind_of fun value => rfl
  | series name value =>
    unfold Context.step IndicatorScript.Context.step
    dsimp only
    rw [evalDeclared_single]
    exact bind_map_of fun values => rfl
  | plot value =>
    unfold Context.step IndicatorScript.Context.step
    dsimp only
    rw [evalDeclared_single]
    exact bind_map_of fun values => rfl

theorem runFrom_single (plotted : List α) (statements : List (Statement α)) :
    (single context).runFrom (.single plotted) statements =
      ⟨single (context.runFrom plotted statements).context,
        (context.runFrom plotted statements).plotted.map .single⟩ := by
  induction statements generalizing context plotted with
  | nil => rfl
  | cons statement rest ih =>
    unfold Context.runFrom IndicatorScript.Context.runFrom
    rw [step_single]
    cases context.step statement with
    | error e => rfl
    | ok out =>
      rcases out with ⟨next, plot⟩
      have shown : ((plot.map Series.single).getD (.single plotted)) = .single (plot.getD plotted) := by
        cases plot <;> rfl
      simp only [Except.map, shown]
      exact ih next (plot.getD plotted)

theorem run_single (limits : Limits) (statements : List (Statement α)) :
    (single context).run limits statements =
      ⟨single (context.run limits statements).context, (context.run limits statements).plotted.map .single⟩ := by
  unfold Context.run IndicatorScript.Context.run
  rw [show (single context).bars = context.bars from rfl]
  cases limits.exceeded? (α := α) statements.length context.bars.length with
  | some e => rfl
  | none => exact runFrom_single context [] statements

end Panel

/-! ## Scripts -/

theorem Market.further_of_isSingle {market : Market α} (isSingle : market.isSingle = true) :
    market.further = fun _ => [] := by
  funext price
  have all := List.all_eq_true.mp isSingle price (by cases price <;> decide)
  exact List.isEmpty_iff.mp all

variable [Number α]

theorem Script.perform_single [Literal α] (script : Script α) (limits : Limits) {market : Market α}
    (isSingle : market.isSingle = true) (parameters : Bindings (Value α)) :
    script.perform limits market parameters = script.execute limits (.bars market.toStampedBars) parameters := by
  have ran := Panel.run_single { bars := market.bars, parameters } limits script.statements
  unfold Panel.single at ran
  unfold perform Script.execute
  rw [market.further_of_isSingle isSingle, ran]
  dsimp only [BarInput.toBars]
  cases (Context.run limits { bars := market.bars, parameters } script.statements).plotted with
  | ok plot => rfl
  | error e => rfl

namespace BarInput

variable [Literal α]

theorem toBars_eq (input : BarInput α) : input.toBars = input.toMarket >>= Market.toBars := by
  cases input with
  | bars stamped => rfl
  | frame table => rfl

theorem toBars_of_isSingle (input : BarInput α) {market : Market α} (read : input.toMarket = .ok market)
    (isSingle : market.isSingle = true) : input.toBars = .ok market.toStampedBars := by
  rw [toBars_eq, read]
  exact if_pos isSingle

end BarInput

theorem Script.execute_of_toBars [Literal α] (script : Script α) (limits : Limits) {input : BarInput α}
    {stamped : StampedBars α} (read : input.toBars = .ok stamped) (parameters : Bindings (Value α)) :
    script.execute limits input parameters = script.execute limits (.bars stamped) parameters := by
  rw [execute, read]
  rfl

namespace Interpreter

variable [Literal α]

omit [Number α] [Literal α] in
theorem reported_unbounded (execution : Execution α) : unbounded.reported execution = .ok execution := by
  have unguarded : execution.failure.bind unbounded.failureGuard? = none := by
    rw [Option.bind_eq_none_iff]
    intro failure _
    cases failure with
    | notCompiled e => rfl
    | notEvaluated e => exact Option.bind_fun_none e.shownInteger?
  rw [reported, unguarded]

theorem execute_of_toMarket (interpreter : Interpreter α) (script : Script α) (limits : Limits) (input : BarInput α)
    {market : Market α} (read : input.toMarket = .ok market) (parameters : Bindings (Value α)) :
    interpreter.execute script limits input parameters =
      if interpreter.exhausts limits script.statements market parameters then .error (.stopped .stackExhausted)
      else script.perform limits market parameters >>= interpreter.reported := by
  rw [execute, read]
  change (if interpreter.exhausts limits script.statements market parameters then _ else _) = _
  split <;> rfl

theorem execute_unbounded (script : Script α) (limits : Limits) {input : BarInput α}
    (columns : input.toBars ≠ .error .severalColumns) (parameters : Bindings (Value α)) :
    unbounded.execute script limits input parameters = script.execute limits input parameters := by
  cases read : input.toMarket with
  | error e =>
    have refused : input.toBars = .error e := by
      rw [input.toBars_eq, read]
      rfl
    rw [execute, read, Script.execute, refused]
    rfl
  | ok market =>
    cases isSingle : market.isSingle with
    | false =>
      refine absurd ?_ columns
      rw [input.toBars_eq, read]
      exact if_neg (by rw [isSingle]; exact Bool.false_ne_true)
    | true =>
      rw [unbounded.execute_of_toMarket script limits input read, script.perform_single limits isSingle,
        script.execute_of_toBars limits (input.toBars_of_isSingle read isSingle)]
      change script.execute limits (.bars market.toStampedBars) parameters >>= _ = _
      cases script.execute limits (.bars market.toStampedBars) parameters with
      | error e => rfl
      | ok execution => exact reported_unbounded execution

theorem executeSource_unbounded (limits : Limits) (source : String) {input : BarInput α}
    (columns : input.toBars ≠ .error .severalColumns) (parameters : Bindings (Value α)) :
    unbounded.executeSource limits source input parameters =
      IndicatorScript.executeSource limits source input parameters := by
  have unguarded : (unbounded : Interpreter α).compilingGuard? limits source = none := rfl
  rw [executeSource, unguarded, IndicatorScript.executeSource]
  cases (compile limits source : Except SyntaxError (Script α)) with
  | error e => rfl
  | ok script => exact execute_unbounded script limits columns parameters

end Interpreter

end IndicatorScript
