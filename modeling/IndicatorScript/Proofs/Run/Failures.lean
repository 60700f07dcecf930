import IndicatorScript.Proofs.Expr.Height
import IndicatorScript.Proofs.Frame.Regular
import IndicatorScript.Proofs.Panel.Agreement
import IndicatorScript.Proofs.Panel.Alignment
import IndicatorScript.Proofs.Run.Composition

/-!
# What ends an execution without a result

Whatever goes wrong in a script is part of the result of its execution. What is not comes from outside of the script
(`execute_returns`): an integer of the caller beyond the range of the numbers, or too long to be printed in a message;
several columns of one price; or a stack that is too small for the trees of the script.
-/

namespace IndicatorScript

variable {α : Type}

def Context.HasLargeInteger [Number α] (context : Context α) : Prop :=
  ∃ i, context.HasInteger i ∧ Number.ofInt? (α := α) i = none

theorem Context.hasInteger_fresh {bars : List (Bar α)} {parameters : Bindings (Value α)} {i : Int}
    (has : Context.HasInteger { bars, parameters } i) : ∃ name, parameters.get? name = some (.integer i) := by
  rcases has with ⟨name, isScalar | isParameter⟩
  · cases isScalar
  · exact ⟨name, isParameter⟩

/-- An integer that the caller gives, as a parameter or as a limit. -/
def IsGiven (limits : Limits) (parameters : Bindings (Value α)) (i : Int) : Prop :=
  (∃ name, parameters.get? name = some (.integer i)) ∨ limits.statements = .whole i ∨ limits.bars = .whole i

/-! ## Errors -/

theorem EvalError.IsOfColumns.cases_of {err : EvalError α} (isOfColumns : err.IsOfColumns) :
    err = .severalColumns ∨ ∃ e, err = .columns e := by
  cases err with
  | severalColumns => exact .inl rfl
  | columns e => exact .inr ⟨e, rfl⟩
  | _ => exact isOfColumns.elim

theorem Limits.not_isOfColumns_of_exceeded? {limits : Limits} {statements bars : Nat} {err : EvalError α}
    (exceeded : limits.exceeded? statements bars = some err) : ¬ err.IsOfColumns := by
  have other {limit : Limit} {e : EvalError α} (isOther : ¬ e.IsOfColumns) : ¬ (limit.violation e).IsOfColumns := by
    rcases limit.violation_cases e with same | ⟨typeName, -, same⟩
    · rwa [same]
    · rw [same]
      exact id
  rcases exceeded?_cases exceeded with rfl | rfl
  · exact other id
  · exact other id

theorem Limits.exceeded?_isFault {limits : Limits} {statements bars : Nat} {err : EvalError α}
    (exceeded : limits.exceeded? statements bars = some err) :
    err.fault?.isSome = true ∨ ∃ typeName, err = .incomparableLimit typeName := by
  have violation (limit : Limit) (e : EvalError α) (isFault : e.fault?.isSome = true) :
      (limit.violation e).fault?.isSome = true ∨ ∃ typeName, limit.violation e = .incomparableLimit typeName := by
    rcases limit.violation_cases e with same | ⟨typeName, -, same⟩
    · rw [same]
      exact .inl isFault
    · exact .inr ⟨typeName, same⟩
  rcases exceeded?_cases exceeded with rfl | rfl
  · exact violation _ _ rfl
  · exact violation _ _ rfl

theorem Limits.isGiven_of_exceeded? {limits : Limits} {statements bars : Nat} {err : EvalError α}
    (exceeded : limits.exceeded? statements bars = some err) {i : Int} (shown : err.shownInteger? = some i)
    (parameters : Bindings (Value α)) : IsGiven limits parameters i := by
  have whole {limit : Limit} {n : Nat} (make : Nat → Limit → EvalError α)
      (only : ∀ limit, (make n limit).shownInteger? = some i → limit = .whole i)
      (shown : (limit.violation (make n limit)).shownInteger? = some i) : limit = .whole i := by
    rcases limit.violation_cases (make n limit) with same | ⟨typeName, -, same⟩
    · exact only limit (same ▸ shown)
    · rw [same] at shown
      cases shown
  refine .inr ?_
  rcases exceeded?_cases exceeded with rfl | rfl
  · refine .inl (whole .tooManyStatements (fun limit shown => ?_) shown)
    cases limit <;> cases shown
    rfl
  · refine .inr (whole .tooManyBars (fun limit shown => ?_) shown)
    cases limit <;> cases shown
    rfl

variable [Number α]

namespace Expr.Raises

variable {context : Context α} {e : Expr α} {err : EvalError α}

theorem isFault (raises : e.Raises context err) :
    err.fault?.isSome = true ∨ err = .integerTooLarge ∧ context.HasLargeInteger := by
  cases err with
  | integerTooLarge => exact .inr ⟨rfl, raises⟩
  | incomparableLengths | incomparableLimit | columns => exact raises.elim
  | _ => exact .inl rfl

theorem hasInteger (raises : e.Raises context err) {i : Int} (shown : err.shownInteger? = some i) :
    context.HasInteger i := by
  cases err with
  | notNumber value | notText function value | notLength value =>
    cases value with
    | integer given =>
      cases shown
      exact raises i rfl
    | _ => cases shown
  | tooManyStatements | tooManyBars => exact raises.elim
  | _ => cases shown

end Expr.Raises

/-! ## Executions -/

/-- What the execution of so many statements over a table comes to. -/
inductive Performs (limits : Limits) (statements : Nat) (market : Market α) (parameters : Bindings (Value α)) :
    Except (Interruption α) (Execution α) → Prop where
  | succeeds {execution : Execution α} (succeeds : execution.failure = none) :
      Performs limits statements market parameters (.ok execution)
  | fails {execution : Execution α} {err : EvalError α} {fault : Fault}
      (failed : execution.failure = some (.notEvaluated err)) (isFault : err.fault? = some fault)
      (given : ∀ i, err.shownInteger? = some i → IsGiven limits parameters i) :
      Performs limits statements market parameters (.ok execution)
  | integerTooLarge {name : String} {i : Int} (given : parameters.get? name = some (.integer i))
      (tooLarge : Number.ofInt? (α := α) i = none) :
      Performs limits statements market parameters (.error (.badInput .integerTooLarge))
  | limit {typeName : String} (exceeded : limits.exceeded? (α := α) statements market.bars.length =
        some (.incomparableLimit typeName)) :
      Performs limits statements market parameters (.error (.badInput (.incomparableLimit typeName)))
  | columns {e : ColumnError} (several : ∃ price, market.further price ≠ []) :
      Performs limits statements market parameters (.error (.badInput (.columns e)))

/-- A run over bars with one column of each price fails with nothing that comes of several. -/
theorem Market.not_isOfColumns {market : Market α} (isSingle : market.isSingle = true) {limits : Limits}
    {parameters : Bindings (Value α)} {statements : List (Statement α)} {err : EvalError α}
    (failed : (Panel.Context.run limits { bars := market.bars, further := market.further, parameters }
      statements).plotted = .error err) : ¬ err.IsOfColumns := by
  have ran := Panel.run_single { bars := market.bars, parameters } limits statements
  unfold Panel.single at ran
  rw [market.further_of_isSingle isSingle, ran] at failed
  have aligned := Context.aligned_fresh market.bars parameters
  rcases (Context.run_yields aligned limits statements).fails (eq_error_of_map_eq_error failed) with
    ⟨statement, -, e, -, raises⟩ | exceeded
  · intro isOfColumns
    rcases isOfColumns.cases_of with rfl | ⟨e, rfl⟩
    · exact raises
    · exact raises
  · exact Limits.not_isOfColumns_of_exceeded? exceeded

theorem Script.perform_performs (script : Script α) (limits : Limits) {market : Market α} (regular : market.IsRegular)
    (parameters : Bindings (Value α)) :
    Performs limits script.statements.length market parameters (script.perform limits market parameters) := by
  let context : Panel.Context α := { bars := market.bars, further := market.further, parameters }
  have aligned : context.Aligned := ⟨regular, Context.aligned_fresh market.bars parameters, nofun⟩
  have yields := Panel.Context.run_yields aligned limits script.statements
  unfold perform
  dsimp only
  split
  · exact .succeeds rfl
  next err failed =>
  rcases yields.fails failed with ⟨statement, -, e, -, raises | isOfColumns⟩ | exceeded
  · have given (i : Int) (shown : err.shownInteger? = some i) : IsGiven limits parameters i :=
      .inl (Context.hasInteger_fresh (raises.hasInteger shown))
    rcases raises.isFault with isFault | ⟨rfl, i, has, tooLarge⟩
    · rcases Option.isSome_iff_exists.mp isFault with ⟨fault, known⟩
      rw [if_pos isFault]
      exact .fails rfl known given
    · rcases Context.hasInteger_fresh has with ⟨name, isInteger⟩
      exact .integerTooLarge isInteger tooLarge
  · rcases isOfColumns.cases_of with rfl | ⟨e, rfl⟩
    · exact .fails rfl rfl nofun
    · refine .columns ?_
      refine Classical.byContradiction fun none => Market.not_isOfColumns ?_ failed trivial
      refine List.all_eq_true.mpr fun price _ => List.isEmpty_iff.mpr ?_
      exact Classical.byContradiction fun some => none ⟨price, some⟩
  · rcases Limits.exceeded?_isFault exceeded with isFault | ⟨typeName, rfl⟩
    · rcases Option.isSome_iff_exists.mp isFault with ⟨fault, known⟩
      rw [if_pos isFault]
      exact .fails rfl known fun i shown => Limits.isGiven_of_exceeded? exceeded shown parameters
    · exact .limit exceeded

theorem Script.perform_of_exceeded {script : Script α} {limits : Limits} {market : Market α} {typeName : String}
    (exceeded : limits.exceeded? (α := α) script.statements.length market.bars.length =
      some (.incomparableLimit typeName)) (parameters : Bindings (Value α)) :
    script.perform limits market parameters = .error (.badInput (.incomparableLimit typeName)) := by
  unfold perform Panel.Context.run
  dsimp only
  rw [exceeded]
  rfl

/-! ## Interpreters -/

namespace Interpreter

/-- The stack suffices for expressions up to a height. -/
def Walks (interpreter : Interpreter α) (height : Nat) : Prop :=
  ∀ limits statements market parameters, interpreter.exhausts limits statements market parameters = true →
    ∃ statement ∈ statements, ∃ e ∈ statement.expressions, height < e.height

omit [Number α] in
/-- A failure that cannot be reported is one whose message shows an integer that is too long to be printed. -/
theorem reported_cases (interpreter : Interpreter α) {execution : Execution α} {err : EvalError α}
    (failed : execution.failure = some (.notEvaluated err)) :
    interpreter.reported execution = .ok execution ∨
      ∃ most i, interpreter.reported execution = .error (.stopped (.unprintableInteger most)) ∧
        interpreter.digits = some most ∧ most < Decimal.digitCount i.natAbs ∧ err.shownInteger? = some i := by
  have guards : execution.failure.bind interpreter.failureGuard? =
      err.shownInteger?.bind interpreter.printingGuard? := by
    rw [failed]
    rfl
  rw [reported, guards]
  cases guarded : err.shownInteger?.bind interpreter.printingGuard? with
  | none => exact .inl rfl
  | some guard =>
    rcases Option.bind_eq_some_iff.mp guarded with ⟨i, shown, stops⟩
    unfold printingGuard? at stops
    split at stops
    · cases stops
    · next most bounded =>
      split at stops
      · next long =>
        cases stops
        exact .inr ⟨most, i, rfl, bounded, long, shown⟩
      · cases stops

end Interpreter

theorem execute_returns [Literal α] (interpreter : Interpreter α) {height : Nat} (walks : interpreter.Walks height)
    (script : Script α) (limits : Limits) (input : BarInput α) (parameters : Bindings (Value α)) {market : Market α}
    (numbers : ∀ typeName, limits.statements ≠ .incomparable typeName ∧ limits.bars ≠ .incomparable typeName)
    (regular : input.IsRegular) (accepted : input.toMarket = .ok market) :
    let result := interpreter.execute script limits input parameters
    (∃ execution, result = .ok execution ∧
      ∀ failure, execution.failure = some failure →
        ∃ err fault, failure = .notEvaluated err ∧ err.fault? = some fault) ∨
    (result = .error (.badInput .integerTooLarge) ∧
      ∃ name i, parameters.get? name = some (.integer i) ∧ Number.ofInt? (α := α) i = none) ∨
    (∃ most i, result = .error (.stopped (.unprintableInteger most)) ∧ interpreter.digits = some most ∧
      most < Decimal.digitCount i.natAbs ∧ IsGiven limits parameters i) ∨
    (∃ e, result = .error (.badInput (.columns e)) ∧ ∃ price, market.further price ≠ []) ∨
    result = .error (.stopped .stackExhausted) ∧
      ∃ statement ∈ script.statements, ∃ e ∈ statement.expressions, height < e.height := by
  intro result
  have isRegular := BarInput.toMarket_isRegular regular market accepted
  have executed := interpreter.execute_of_toMarket script limits input accepted parameters
  cases exhausts : interpreter.exhausts limits script.statements market parameters with
  | true =>
    rw [exhausts, if_pos rfl] at executed
    exact .inr (.inr (.inr (.inr ⟨executed, walks limits script.statements market parameters exhausts⟩)))
  | false =>
    rw [exhausts, if_neg Bool.false_ne_true] at executed
    have performs := script.perform_performs limits isRegular parameters
    generalize script.perform limits market parameters = performed at performs executed
    cases performs with
    | @succeeds execution succeeds =>
      have reported : interpreter.reported execution = .ok execution := by
        rw [Interpreter.reported, succeeds]
        rfl
      refine .inl ⟨execution, executed.trans reported, fun failure failed => ?_⟩
      rw [succeeds] at failed
      cases failed
    | @fails execution err fault failed isFault given =>
      rcases interpreter.reported_cases failed with reported | ⟨most, i, stopped, bounded, long, shown⟩
      · refine .inl ⟨execution, executed.trans reported, fun failure same => ?_⟩
        rw [failed] at same
        cases same
        exact ⟨err, fault, rfl, isFault⟩
      · exact .inr (.inr (.inl ⟨most, i, executed.trans stopped, bounded, long, given i shown⟩))
    | @integerTooLarge name i given tooLarge => exact .inr (.inl ⟨executed, name, i, given, tooLarge⟩)
    | limit exceeded => cases Limits.fault?_of_exceeded? exceeded numbers
    | @columns e several => exact .inr (.inr (.inr (.inl ⟨e, executed, several⟩)))

namespace Sample

def shifted : Script Float := ⟨[.plot (.binary (.call "close" []) (.arithmetic .add) (.name "p"))]⟩

def doubleClose : Frame Float where
  columns :=
    [("open", [.number 1.0, .number 2.0]), ("high", [.number 3.0, .number 5.0]), ("low", [.number 1.0, .number 2.0]),
      ("close", [.number 2.0, .number 4.0]), ("Close", [.number 2.0, .number 4.0]),
      ("volume", [.number 10.0, .number 20.0])]
  labels := [.integer 0, .integer 1]

theorem doubleClose_isRegular : doubleClose.IsRegular := by
  unfold Frame.IsRegular
  decide +kernel

def strength : Script Float := ⟨[.plot (.call "rsi" [.call "close" [], .number 1.0])]⟩

end Sample

def columnError? : Except (Interruption α) (Execution α) → Option ColumnError
  | .error (.badInput (.columns e)) => some e
  | _ => none

omit [Number α] in
theorem eq_error_of_columnError? {result : Except (Interruption α) (Execution α)} {e : ColumnError}
    (isError : columnError? result = some e) : result = .error (.badInput (.columns e)) := by
  unfold columnError? at isError
  split at isError
  · cases isError
    rfl
  · cases isError

theorem execute_returns_sample :
    let parameters : Bindings (Value Float) := .ofList [("p", .integer (.ofNat (Nat.pow 10 400)))]
    let result := Interpreter.unbounded.execute Sample.shifted {} (.bars ⟨[], Sample.bars⟩) parameters
    result = .error (.badInput .integerTooLarge) ∧
      ∃ name i, parameters.get? name = some (.integer i) ∧ Number.ofInt? (α := Float) i = none := by
  intro parameters result
  have noResult : result.isOk = false := by
    decide +kernel
  have walks : (Interpreter.unbounded (α := Float)).Walks 2 := nofun
  have returns := execute_returns .unbounded walks Sample.shifted {} (.bars ⟨[], Sample.bars⟩) parameters
    (fun _ => ⟨nofun, nofun⟩) trivial rfl
  rcases returns with ⟨execution, returned, -⟩ | interrupted | ⟨most, i, -, bounded, -⟩ | ⟨e, -, price, several⟩ |
    ⟨exhausted, statement, mem, e, isOf, high⟩
  · change result = _ at returned
    rw [returned] at noResult
    cases noResult
  · exact interrupted
  · cases bounded
  · exact absurd rfl several
  · rcases List.mem_singleton.mp mem with rfl
    rcases List.mem_singleton.mp isOf with rfl
    exact absurd high (by decide)

/-- A table that is accepted, and an execution over it that returns nothing, without any parameter. -/
theorem strength_of_columns_interrupts :
    Sample.doubleClose.IsRegular ∧ (∃ market, Sample.doubleClose.toMarket = .ok market) ∧
      Interpreter.unbounded.execute Sample.strength {} (.frame Sample.doubleClose) {} =
        .error (.badInput (.columns (.outOfRange 2 2))) := by
  refine ⟨Sample.doubleClose_isRegular, ?_, eq_error_of_columnError? (by decide +kernel)⟩
  have accepted : Sample.doubleClose.toMarket.isOk = true := by decide +kernel
  cases read : Sample.doubleClose.toMarket with
  | ok market => exact ⟨market, rfl⟩
  | error e =>
    rw [read] at accepted
    cases accepted

end IndicatorScript
