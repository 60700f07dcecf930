import IndicatorScript.Proofs.Expr.Alignment
import IndicatorScript.Proofs.Run.Prefix
import IndicatorScript.Proofs.Statement.Grammar
import IndicatorScript.Proofs.Token.Scan

/-!
# Runs keep every series aligned

A context that was changed by runs only is aligned, whatever statements were run in it and however they ended
(`runs_aligned`). What a run fails with is raised by an expression of one of its statements, so series never differ in
length, and no operator of a script that was read is unknown.
-/

namespace IndicatorScript

variable {α : Type}

/-- The errors of an operation on series of different lengths. -/
def EvalError.IsMisalignment : EvalError α → Prop
  | .lengthsDiffer _ | .incomparableLengths => True
  | _ => False

/-! ## Operators of scripts -/

theorem Derives.known [Literal α] {phrase : Phrase} {tokens : List Token} {e : Expr α} {op : Operator}
    (derives : Derives phrase tokens e) (uses : e.Uses op) : op.tier?.isSome = true ∨ op.IsSign := by
  induction derives with
  | boolean | number | text | name => cases uses
  | parenthesised _ _ _ ih | bare _ ih | unsigned _ ih | operand _ ih => exact ih uses
  | call _ _ _ _ _ _ ih =>
    cases uses with
    | argument mem uses =>
      rcases List.mem_map.mp mem with ⟨argument, given, rfl⟩
      exact ih argument given uses
  | index _ _ _ _ _ ih =>
    cases uses with
    | position uses => exact ih uses
  | sign isSign _ _ ih =>
    cases uses with
    | here => exact .inr isSign
    | left uses => cases uses
    | right uses => exact ih uses
  | chain _ isTier _ _ ihLeft ihRight =>
    cases uses with
    | here => exact .inl (Option.isSome_of_eq_some isTier)
    | left uses => exact ihLeft uses
    | right uses => exact ihRight uses

theorem Statement.Derived.known [Literal α] {statement : Statement α} (derived : statement.Derived) {e : Expr α}
    (mem : e ∈ statement.expressions) (symbol : String) : ¬ e.Uses (.unknown symbol) := by
  intro uses
  rcases derived e mem with ⟨tokens, derives⟩
  rcases derives.known uses with isTier | isNot | isMinus
  · cases isTier
  · cases isNot
  · cases isMinus

/-! ## Steps and runs -/

/-- What every statement keeps of an aligned context. -/
structure Context.Keeps (before after : Context α) : Prop where
  bars : after.bars = before.bars
  aligned : after.Aligned
  integers : ∀ i, after.HasInteger i → before.HasInteger i

namespace Context.Keeps

variable {first second third : Context α}

theorem refl (aligned : first.Aligned) : first.Keeps first := ⟨rfl, aligned, fun _ => id⟩

theorem trans (one : first.Keeps second) (other : second.Keeps third) : first.Keeps third :=
  ⟨other.bars.trans one.bars, other.aligned, fun i has => one.integers i (other.integers i has)⟩

end Context.Keeps

theorem Context.aligned_fresh (bars : List (Bar α)) (parameters : Bindings (Value α)) :
    Context.Aligned { bars, parameters } :=
  nofun

theorem Context.Aligned.insert {context : Context α} (aligned : context.Aligned) (name : String) {values : List α}
    (length : values.length = context.bars.length) :
    Context.Aligned { context with series := context.series.insert name values } := by
  intro other others bound
  rcases Bindings.get?_insert_cases bound with ⟨-, rfl⟩ | ⟨-, bound⟩
  · exact length
  · exact aligned other others bound

theorem Value.KnownTo.insert {context : Context α} {value : Value α} (known : value.KnownTo context) {name : String}
    {i : Int} (has : Context.HasInteger { context with scalars := context.scalars.insert name value } i) :
    context.HasInteger i := by
  rcases has with ⟨other, isScalar | isParameter⟩
  · rcases Bindings.get?_insert_cases isScalar with ⟨-, same⟩ | ⟨-, isScalar⟩
    · exact known i same.symm
    · exact ⟨other, .inl isScalar⟩
  · exact ⟨other, .inr isParameter⟩

variable [Number α]

theorem Expr.Raises.before {before after : Context α} (integers : ∀ i, after.HasInteger i → before.HasInteger i)
    {e : Expr α} {err : EvalError α} (raises : e.Raises after err) : e.Raises before err := by
  cases err with
  | integerTooLarge =>
    rcases raises with ⟨i, has, tooLarge⟩
    exact ⟨i, integers i has, tooLarge⟩
  | notNumber value | notText function value | notLength value => exact fun i same => integers i (raises i same)
  | _ => exact raises

def Statement.Raises (context : Context α) (statement : Statement α) (err : EvalError α) : Prop :=
  ∃ e ∈ statement.expressions, e.Raises context err

theorem Yields.ofStatement {context : Context α} {statement : Statement α} {e : Expr α} {β : Type} {p : β → Prop}
    {result : Except (EvalError α) β} (yields : Yields p (e.Raises context) result)
    (mem : e ∈ statement.expressions) : Yields p (statement.Raises context) result :=
  yields.mono (fun _ => id) fun _ raises => ⟨e, mem, raises⟩

theorem Context.step_yields {context : Context α} (aligned : context.Aligned) (statement : Statement α) :
    Yields
      (fun out => context.Keeps out.1 ∧ ∀ values, out.2 = some values → values.length = context.bars.length)
      (statement.Raises context) (context.step statement) := by
  cases statement with
  | study header => exact ⟨⟨rfl, aligned, fun _ => id⟩, nofun⟩
  | scalar name value =>
    have isOf : value ∈ (Statement.scalar name value).expressions := List.mem_singleton_self value
    refine ((value.evalScalar_yields context).ofStatement isOf).bind fun x known => ?_
    have aligned : Context.Aligned { context with
        scalars := context.scalars.insert name x
        series := context.series.erase name } :=
      fun other values bound => aligned other values (Bindings.get?_of_erase bound)
    exact ⟨⟨rfl, aligned, fun i => known.insert⟩, nofun⟩
  | series name value =>
    have isOf : value ∈ (Statement.series name value).expressions := List.mem_singleton_self value
    refine ((value.evalDeclared_yields aligned).ofStatement isOf).bind fun values length => ?_
    have integers (i : Int) (has : Context.HasInteger { context with
        scalars := context.scalars.erase name
        series := context.series.insert name values } i) : context.HasInteger i := by
      rcases has with ⟨other, isScalar | isParameter⟩
      · exact ⟨other, .inl (Bindings.get?_of_erase isScalar)⟩
      · exact ⟨other, .inr isParameter⟩
    exact ⟨⟨rfl, aligned.insert name length, integers⟩, nofun⟩
  | plot value =>
    have isOf : value ∈ (Statement.plot value).expressions := List.mem_singleton_self value
    exact ((value.evalDeclared_yields aligned).ofStatement isOf).bind fun values length =>
      ⟨.refl aligned, fun others same => Option.some.inj same ▸ length⟩

theorem Context.runFrom_yields {context : Context α} (aligned : context.Aligned) (plotted : List α)
    (statements : List (Statement α)) :
    context.Keeps (context.runFrom plotted statements).context ∧
      Yields
        (fun plot => if statements.any Statement.isPlot then plot.length = context.bars.length else plot = plotted)
        (fun err => ∃ statement ∈ statements, statement.Raises context err)
        (context.runFrom plotted statements).plotted := by
  induction statements generalizing context plotted with
  | nil => exact ⟨.refl aligned, rfl⟩
  | cons statement rest ih =>
    have step := step_yields aligned statement
    simp only [runFrom]
    cases stepped : context.step statement with
    | error err => exact ⟨.refl aligned, statement, List.mem_cons_self, step.fails stepped⟩
    | ok out =>
      rcases out with ⟨next, shown⟩
      rcases step.gives _ stepped with ⟨keeps, length⟩
      rcases ih keeps.aligned (shown.getD plotted) with ⟨further, yields⟩
      refine ⟨keeps.trans further, yields.mono (fun plot plots => ?_) fun err raised => ?_⟩
      · rw [List.any_cons, ← isSome_step stepped]
        rw [keeps.bars] at plots
        cases shown with
        | none => simpa using plots
        | some values =>
          split at plots
          · simpa using plots
          · rw [show plot = values from plots]
            simpa using length values rfl
      · rcases raised with ⟨other, mem, e, isOf, raises⟩
        exact ⟨other, List.mem_cons_of_mem statement mem, e, isOf, raises.before keeps.integers⟩

/-- A context that was made for these bars and parameters, and changed by runs only. -/
inductive Context.Made (bars : List (Bar α)) (parameters : Bindings (Value α)) : Context α → Prop where
  | fresh : Made bars parameters { bars, parameters }
  | run {context : Context α} (made : Made bars parameters context) (limits : Limits)
      (statements : List (Statement α)) : Made bars parameters (context.run limits statements).context

theorem Context.run_keeps {context : Context α} (aligned : context.Aligned) (limits : Limits)
    (statements : List (Statement α)) : context.Keeps (context.run limits statements).context := by
  unfold run
  split
  · exact .refl aligned
  · exact (runFrom_yields aligned [] statements).1

theorem Context.Made.keeps {bars : List (Bar α)} {parameters : Bindings (Value α)} {context : Context α}
    (made : context.Made bars parameters) : Context.Keeps { bars, parameters } context := by
  induction made with
  | fresh => exact .refl (aligned_fresh bars parameters)
  | run made limits statements ih => exact ih.trans (run_keeps ih.aligned limits statements)

theorem Expr.Raises.not_misalignment {context : Context α} {e : Expr α} {err : EvalError α}
    (raises : e.Raises context err) : ¬ err.IsMisalignment := by
  cases err with
  | lengthsDiffer | incomparableLengths => exact raises.elim
  | _ => exact id

/-- A run fails with what one of its statements raises, or is not begun. -/
theorem Context.run_yields {context : Context α} (aligned : context.Aligned) (limits : Limits)
    (statements : List (Statement α)) :
    Yields (fun plot => plot.length = if statements.any Statement.isPlot then context.bars.length else 0)
      (fun err => (∃ statement ∈ statements, statement.Raises context err) ∨
        limits.exceeded? statements.length context.bars.length = some err)
      (context.run limits statements).plotted := by
  cases exceeded : limits.exceeded? (α := α) statements.length context.bars.length with
  | some err =>
    rw [run, exceeded]
    exact .inr rfl
  | none =>
    rw [run, exceeded]
    refine (runFrom_yields aligned [] statements).2.mono (fun plot plots => ?_) fun err => Or.inl
    split at plots
    · next plotting => rwa [if_pos plotting]
    · next plotless => rw [if_neg plotless, plots, List.length_nil]

omit [Number α] in
theorem Limits.not_misalignment_of_exceeded? {limits : Limits} {statements bars : Nat} {err : EvalError α}
    (exceeded : limits.exceeded? statements bars = some err) :
    ¬ err.IsMisalignment ∧ ∀ symbol, err ≠ .unknownOperator symbol := by
  have violation (limit : Limit) (e : EvalError α)
      (other : ¬ e.IsMisalignment ∧ ∀ symbol, e ≠ .unknownOperator symbol) :
      ¬ (limit.violation e).IsMisalignment ∧ ∀ symbol, limit.violation e ≠ .unknownOperator symbol := by
    rcases limit.violation_cases e with same | ⟨typeName, -, same⟩
    · rwa [same]
    · rw [same]
      exact ⟨id, nofun⟩
  rcases exceeded?_cases exceeded with rfl | rfl
  · exact violation _ _ ⟨id, nofun⟩
  · exact violation _ _ ⟨id, nofun⟩

theorem Context.run_ne_unknownOperator [Literal α] {context : Context α} (aligned : context.Aligned) (limits : Limits)
    {statements : List (Statement α)} (derived : ∀ statement ∈ statements, statement.Derived) (symbol : String) :
    (context.run limits statements).plotted ≠ .error (.unknownOperator symbol) := by
  intro failed
  rcases (run_yields aligned limits statements).fails failed with ⟨statement, mem, e, isOf, uses⟩ | exceeded
  · exact (derived statement mem).known isOf symbol uses
  · exact (Limits.not_misalignment_of_exceeded? exceeded).2 symbol rfl

theorem runs_aligned [Literal α] {bars : List (Bar α)} {parameters : Bindings (Value α)} {context : Context α}
    (made : context.Made bars parameters) :
    (∀ name values, context.series.get? name = some values → values.length = bars.length) ∧
    (∀ (e : Expr α) values, e.evalSeries context = .ok values → values.length = bars.length) ∧
    (∀ (e : Expr α) err, e.evalSeries context = .error err ∨ e.evalScalar context = .error err →
      ¬ err.IsMisalignment) ∧
    ∀ limits (statements : List (Statement α)),
      (∀ plot, (context.run limits statements).plotted = .ok plot →
        plot.length = if statements.any Statement.isPlot then bars.length else 0) ∧
      (∀ err, (context.run limits statements).plotted = .error err → ¬ err.IsMisalignment) ∧
      (∀ limit tokens, Spelled (tokens.takeWhile (·.kind ≠ .endOfScript)) → parseTokens limit tokens = .ok statements →
        ∀ symbol, (context.run limits statements).plotted ≠ .error (.unknownOperator symbol)) ∧
      ∀ limit source, parse limit source = .ok statements →
        ∀ symbol, (context.run limits statements).plotted ≠ .error (.unknownOperator symbol) := by
  have keeps := made.keeps
  have aligned := keeps.aligned
  have same : context.bars = bars := keeps.bars
  have parsed {limit : Limit} {tokens : List Token} {statements : List (Statement α)}
      (spelled : Spelled (tokens.takeWhile (·.kind ≠ .endOfScript)))
      (parses : parseTokens limit tokens = .ok statements) (limits : Limits) (symbol : String) :
      (context.run limits statements).plotted ≠ .error (.unknownOperator symbol) :=
    Context.run_ne_unknownOperator aligned limits (parseTokens_derived spelled statements parses) symbol
  subst same
  refine ⟨aligned, fun e => (e.evalSeries_yields aligned).gives, ?_, fun limits statements => ⟨?_, ?_, ?_, ?_⟩⟩
  · rintro e err (failed | failed)
    · exact ((e.evalSeries_yields aligned).fails failed).not_misalignment
    · exact ((e.evalScalar_yields context).fails failed).not_misalignment
  · exact (Context.run_yields aligned limits statements).gives
  · intro err failed
    rcases (Context.run_yields aligned limits statements).fails failed with ⟨statement, -, e, -, raises⟩ | exceeded
    · exact raises.not_misalignment
    · exact (Limits.not_misalignment_of_exceeded? exceeded).1
  · exact fun limit tokens spelled parses => parsed spelled parses limits
  · intro limit source parses
    rcases exists_of_bind_eq_ok parses with ⟨tokens, read, parses⟩
    exact parsed (tokenize_spelled source tokens read) parses limits

theorem runs_aligned_sample :
    let context := (Context.run {} { bars := Sample.bars } Sample.travelled).context
    context.Made Sample.bars {} ∧
      (∀ name values, context.series.get? name = some values → values.length = 3) ∧
      ∀ limits plot, (context.run limits Sample.travelled).plotted = .ok plot → plot.length = 3 := by
  have made : Context.Made Sample.bars {} (Context.run {} { bars := Sample.bars } Sample.travelled).context :=
    .run .fresh {} Sample.travelled
  have aligned := runs_aligned made
  exact ⟨made, aligned.1, fun limits => (aligned.2.2.2 limits Sample.travelled).1⟩

end IndicatorScript
