import IndicatorScript.Engine
import IndicatorScript.Proofs.Expr.Parameters
import IndicatorScript.Proofs.Run.Names

/-!
# Declarations hide parameters

A declared scalar hides the parameter of its name everywhere, a declared series wherever no scalar is wanted. So the
caller cannot change what a script does through a name that it declares before each use, as long as the name stands for
a scalar wherever one is wanted (`execute_hides`). Where a series is declared instead, the parameter is still read
(`execute_reads_hidden`).
-/

namespace IndicatorScript

variable {α : Type}

/-! ## Names in statements -/

namespace Statement

/-- The name stands where the statement wants a scalar, as it does in all of a scalar declaration. -/
def NeedsScalar (n : String) : Statement α → Prop
  | .study _ => False
  | .scalar _ value => (Expr.name n).OccursIn value
  | .series _ value | .plot value => value.NeedsScalar n

/-- Where the name stands in an expression, an earlier statement declares it. -/
def DeclaredBeforeUse (n : String) (statements : List (Statement α)) : Prop :=
  ∀ before statement after, statements = before ++ statement :: after → ∀ e ∈ statement.expressions,
    (Expr.name n).OccursIn e → ∃ earlier ∈ before, earlier.name? = some n

/-- Where a scalar is wanted, the name does not stand for a series. -/
def ScalarWhereNeeded (n : String) (statements : List (Statement α)) : Prop :=
  ∀ before statement after, statements = before ++ statement :: after → statement.NeedsScalar n →
    ¬ IsSeriesAfter n before

/-- The title of every input is a text, and not this one. -/
def TitlesOtherThan (n : String) (statements : List (Statement α)) : Prop :=
  ∀ statement ∈ statements, ∀ e ∈ statement.expressions, ∀ title : Expr α, title.IsTitle e →
    ∃ text, title = .text text ∧ text ≠ n

theorem NeedsScalar.of_mem {n : String} {e : Expr α} {statement : Statement α} (mem : e ∈ statement.expressions)
    (needs : e.NeedsScalar n) : statement.NeedsScalar n := by
  cases statement with
  | study => cases mem
  | scalar name value =>
    rcases List.mem_singleton.mp mem with rfl
    exact needs.occursIn
  | series name value | plot value =>
    rcases List.mem_singleton.mp mem with rfl
    exact needs

theorem titlesOtherThan_of_no_input {n : String} {statements : List (Statement α)}
    (free : ∀ statement ∈ statements, ∀ e ∈ statement.expressions, ∀ function arguments,
      (Expr.call function arguments).OccursIn e → Builtin.ofName? function ≠ some .input) :
    TitlesOtherThan n statements := by
  rintro statement mem e isOf title ⟨function, rest, named, occurs⟩
  exact absurd named (free statement mem e isOf function (title :: rest) occurs)

theorem forall_split_cons {P : List (Statement α) → Statement α → Prop} {first : Statement α}
    {rest : List (Statement α)} :
    (∀ before statement after, first :: rest = before ++ statement :: after → P before statement) ↔
      P [] first ∧ ∀ before statement after, rest = before ++ statement :: after → P (first :: before) statement := by
  constructor
  · intro all
    refine ⟨all [] first rest rfl, fun before statement after split => ?_⟩
    exact all (first :: before) statement after (by rw [split, List.cons_append])
  · rintro ⟨head, tail⟩ before statement after split
    cases before with
    | nil =>
      cases split
      exact head
    | cons _ before =>
      cases split
      exact tail before statement after rfl

structure ReadsAgree (context : Context α) (other : Bindings (Value α)) (statement : Statement α) : Prop where
  expressions : ∀ e ∈ statement.expressions, e.ReadsAgree context other
  scalar : ∀ name value, statement = .scalar name value → value.ScalarsAgree context other

end Statement

variable [Number α]

/-! ## Runs with other parameters -/

namespace Context

variable {context : Context α} {other : Bindings (Value α)} {statement : Statement α}

theorem step_withParameters (agree : statement.ReadsAgree context other) :
    (context.withParameters other).step statement =
      (context.step statement).map fun (next, shown) => (next.withParameters other, shown) := by
  cases statement with
  | study header => rfl
  | scalar name value =>
    have same := Expr.evalScalar_withParameters (agree.expressions value (List.mem_singleton_self value))
      fun _ => agree.scalar name value rfl
    rw [step, step, same]
    cases value.evalScalar context <;> rfl
  | series name value | plot value =>
    have same := Expr.evalDeclared_withParameters (agree.expressions value (List.mem_singleton_self value))
    rw [step, step, same]
    cases value.evalDeclared context <;> rfl

theorem runFrom_withParameters {fresh : Context α} {before rest : List (Statement α)} {plotted : List α}
    (run : fresh.runFrom [] before = ⟨context, .ok plotted⟩)
    (agree : ∀ earlier statement later, before ++ rest = earlier ++ statement :: later →
      ∀ reached, fresh.Reaches earlier reached → statement.ReadsAgree reached other) :
    (context.withParameters other).runFrom plotted rest =
      ⟨(context.runFrom plotted rest).context.withParameters other, (context.runFrom plotted rest).plotted⟩ := by
  -- The statements gone by are kept: what they declare decides what the next one reads of the parameters.
  induction rest generalizing before context plotted with
  | nil => rfl
  | cons statement rest ih =>
    have stepped := step_withParameters (agree before statement rest rfl context ⟨plotted, run⟩)
    cases result : context.step statement with
    | error e =>
      rw [result] at stepped
      simp only [runFrom, stepped, result, Except.map]
    | ok out =>
      rw [result] at stepped
      have further : fresh.runFrom [] (before ++ [statement]) = ⟨out.1, .ok (out.2.getD plotted)⟩ := by
        rw [runFrom_append_of_ok run]
        simp only [runFrom, result]
      have rest := ih further (by simpa using agree)
      simp only [runFrom, stepped, result, Except.map]
      exact rest

theorem run_withParameters {fresh : Context α} (limits : Limits) {statements : List (Statement α)}
    (agree : ∀ before statement after, statements = before ++ statement :: after →
      ∀ reached, fresh.Reaches before reached → statement.ReadsAgree reached other) :
    (fresh.withParameters other).run limits statements =
      ⟨(fresh.run limits statements).context.withParameters other, (fresh.run limits statements).plotted⟩ := by
  have same : (fresh.withParameters other).bars = fresh.bars := rfl
  unfold run
  rw [same]
  split
  · rfl
  · have start : fresh.runFrom [] [] = ⟨fresh, .ok []⟩ := rfl
    exact runFrom_withParameters start agree

end Context

/-! ## Hidden parameters -/

variable {first second : Bindings (Value α)} {p : String} {statements : List (Statement α)}

theorem readsAgree_of_declared (same : ∀ name, name ≠ p → second.get? name = first.get? name)
    (declared : Statement.DeclaredBeforeUse p statements) (scalar : Statement.ScalarWhereNeeded p statements)
    (titles : Statement.TitlesOtherThan p statements) {before after : List (Statement α)} {statement : Statement α}
    (split : statements = before ++ statement :: after) {bars : List (Bar α)} {context : Context α}
    (reached : Context.Reaches { bars, parameters := first } before context) :
    statement.ReadsAgree context second := by
  have mem : statement ∈ statements := by simp [split]
  have others {name : String} (other : name ≠ p) :
      (context.withParameters second).scalar? name = context.scalar? name := by
    simp only [Context.scalar?, Context.withParameters, same name other, reached.parameters_eq]
  -- An earlier statement has bound `p`. A scalar comes before the parameter; a series is only looked at as a series.
  have hidden {e : Expr α} (isOf : e ∈ statement.expressions) (occurs : (Expr.name p).OccursIn e) :
      context.hasSeries p = true ∨ (context.withParameters second).scalar? p = context.scalar? p := by
    have bound := (reached.binds_iff p).mpr (declared before statement after split e isOf occurs)
    refine bound.imp_right fun bound => ?_
    rcases Option.isSome_iff_exists.mp bound with ⟨value, bound⟩
    simp only [Context.scalar?, Context.withParameters, bound, Option.some_or]
  have plain (needs : statement.NeedsScalar p) : context.hasSeries p = false := by
    rw [← Bool.not_eq_true, reached.hasSeries_iff]
    exact scalar before statement after split needs
  refine ⟨fun e isOf => ⟨fun n occurs => ?_, fun title isTitle => ?_⟩, fun name value isScalar n occurs => ?_⟩
  · by_cases other : n = p
    · subst other
      rcases hidden isOf occurs with series | agrees
      · exact .inr ⟨series, fun needs => by simp [plain (.of_mem isOf needs)] at series⟩
      · exact .inl agrees
    · exact .inl (others other)
  · rcases titles statement mem e isOf title isTitle with ⟨text, rfl, other⟩
    exact ⟨text, rfl, by rw [same text other, reached.parameters_eq]⟩
  · by_cases other : n = p
    · subst isScalar other
      refine (hidden (List.mem_singleton_self value) occurs).resolve_left ?_
      rw [plain occurs]
      exact Bool.false_ne_true
    · exact others other

theorem execute_hides [Literal α] {script : Script α} (limits : Limits) (input : BarInput α)
    (declared : Statement.DeclaredBeforeUse p script.statements)
    (scalar : Statement.ScalarWhereNeeded p script.statements)
    (titles : Statement.TitlesOtherThan p script.statements)
    (same : ∀ name, name ≠ p → second.get? name = first.get? name) :
    script.execute limits input second = script.execute limits input first := by
  unfold Script.execute
  cases input.toBars with
  | error e => rfl
  | ok stamped =>
    let fresh : Context α := { bars := stamped.bars, parameters := first }
    have runs : Context.run limits { bars := stamped.bars, parameters := second } script.statements =
        ⟨(fresh.run limits script.statements).context.withParameters second,
          (fresh.run limits script.statements).plotted⟩ :=
      fresh.run_withParameters limits fun _ _ _ split _ reached =>
        readsAgree_of_declared same declared scalar titles split reached
    dsimp only
    rw [runs]
    rfl

open Statement

namespace Sample

def reused : List (Statement Float) :=
  [.scalar "p" (.number 2.0), .series "mean" (.call "sma" [.call "close" [], .name "p"]),
    .series "p" (.binary (.call "close" []) (.arithmetic .subtract) (.name "mean")), .plot (.name "p")]

theorem close_ne_input : Builtin.ofName? "close" ≠ some .input := by decide

theorem sma_ne_input : Builtin.ofName? "sma" ≠ some .input := by decide

theorem reused_declared : DeclaredBeforeUse "p" reused := by
  simp [DeclaredBeforeUse, reused, forall_split_cons, expressions, name?]

theorem reused_scalar : ScalarWhereNeeded "p" reused := by
  have fresh : ¬ IsSeriesAfter (α := Float) "p" [] := by simp [IsSeriesAfter]
  have plain : ¬ NeedsScalar (α := Float) "p" (.plot (.name "p")) := by
    intro needs
    cases needs
  simp [ScalarWhereNeeded, reused, forall_split_cons, isSeriesAfter_cons, fresh, plain]

theorem reused_titles : TitlesOtherThan "p" reused := by
  apply titlesOtherThan_of_no_input
  simp [reused, expressions, or_imp, forall_and, sma_ne_input, close_ne_input]

end Sample

theorem execute_hides_sample :
    DeclaredBeforeUse "p" Sample.reused ∧ ScalarWhereNeeded "p" Sample.reused ∧ TitlesOtherThan "p" Sample.reused ∧
    (∀ name, name ≠ "p" → (Bindings.ofList [("p", Value.number (9.0 : Float))]).get? name = Bindings.get? {} name) ∧
    Script.execute ⟨Sample.reused⟩ {} (.bars ⟨[], Sample.bars⟩) (.ofList [("p", .number 9.0)]) =
      Script.execute ⟨Sample.reused⟩ {} (.bars ⟨[], Sample.bars⟩) {} := by
  have same (name : String) (other : name ≠ "p") :
      (Bindings.ofList [("p", Value.number (9.0 : Float))]).get? name = Bindings.get? {} name :=
    Bindings.get?_insert_of_ne {} _ other
  exact ⟨Sample.reused_declared, Sample.reused_scalar, Sample.reused_titles, same,
    execute_hides {} _ Sample.reused_declared Sample.reused_scalar Sample.reused_titles same⟩

namespace Sample

def hidden : List (Statement Float) :=
  [.series "p" (.call "close" []), .plot (.call "sma" [.call "close" [], .name "p"])]

theorem hidden_declared : DeclaredBeforeUse "p" hidden := by
  simp [DeclaredBeforeUse, hidden, forall_split_cons, expressions, name?]

theorem hidden_titles : TitlesOtherThan "p" hidden := by
  apply titlesOtherThan_of_no_input
  simp [hidden, expressions, or_imp, forall_and, sma_ne_input, close_ne_input]

end Sample

theorem execute_reads_hidden :
    DeclaredBeforeUse "p" Sample.hidden ∧ TitlesOtherThan "p" Sample.hidden ∧
    (∀ name, name ≠ "p" → (Bindings.ofList [("p", Value.number (2.0 : Float))]).get? name = Bindings.get? {} name) ∧
    Script.execute ⟨Sample.hidden⟩ {} (.bars ⟨[], Sample.bars⟩) (.ofList [("p", .number 2.0)]) ≠
      Script.execute ⟨Sample.hidden⟩ {} (.bars ⟨[], Sample.bars⟩) {} := by
  refine ⟨Sample.hidden_declared, Sample.hidden_titles, fun name other => Bindings.get?_insert_of_ne {} _ other, ?_⟩
  intro same
  have outcomes := congrArg (fun result => result.toOption.map fun execution => execution.failure.isSome) same
  exact absurd outcomes (by decide +kernel)

end IndicatorScript
