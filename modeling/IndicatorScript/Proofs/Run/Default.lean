import IndicatorScript.Proofs.Expr.Default
import IndicatorScript.Proofs.Run.Execution
import IndicatorScript.Proofs.Run.Names

/-!
# Overriding an input

To give a parameter for an input is to edit the default of that input in the script. What a script plots and declares
with a number for the parameter, the edited script plots and declares without it (`run_overridden`).
-/

namespace IndicatorScript

variable {α : Type}

/-- The statement with the number as the default of every input with that title. -/
def Statement.withDefault (title : String) (x : α) : Statement α → Statement α
  | .study header => .study header
  | .scalar name value => .scalar name (value.withDefault title x)
  | .series name value => .series name (value.withDefault title x)
  | .plot value => .plot (value.withDefault title x)

variable [Number α] {title : String} {x : α} {context next after : Context α}

namespace Context

theorem step_withDefault (unset : context.parameters.get? title = none) {statement : Statement α}
    (asks : ∀ e ∈ statement.expressions, e.Asks title) {shown : Option (List α)}
    (stepped : (context.given title x).step statement = .ok (next, shown)) :
    ∃ next', context.step (statement.withDefault title x) = .ok (next', shown) ∧ next = next'.given title x ∧
      next'.parameters = context.parameters := by
  rcases step_cases stepped with ⟨header, rfl, rfl, rfl⟩ | ⟨name, value, found, rfl, evaluated, rfl, rfl⟩ |
    ⟨name, value, values, rfl, evaluated, rfl, rfl⟩ | ⟨value, values, rfl, evaluated, rfl, rfl⟩
  · exact ⟨{ context with study := header }, rfl, rfl, rfl⟩
  · have evaluated' := Expr.evalScalar_withDefault unset (asks value (List.mem_singleton_self value)) found evaluated
    rw [Statement.withDefault, step, evaluated']
    exact ⟨_, rfl, rfl, rfl⟩
  · have evaluated' := Expr.evalDeclared_withDefault unset (asks value (List.mem_singleton_self value)) values evaluated
    rw [Statement.withDefault, step, evaluated']
    exact ⟨_, rfl, rfl, rfl⟩
  · have evaluated' := Expr.evalDeclared_withDefault unset (asks value (List.mem_singleton_self value)) values evaluated
    rw [Statement.withDefault, step, evaluated']
    exact ⟨_, rfl, rfl, rfl⟩

theorem runFrom_withDefault {statements : List (Statement α)} (unset : context.parameters.get? title = none)
    (asks : ∀ statement ∈ statements, ∀ e ∈ statement.expressions, e.Asks title) {plotted plot : List α}
    (run : (context.given title x).runFrom plotted statements = ⟨after, .ok plot⟩) :
    ∃ after', context.runFrom plotted (statements.map (Statement.withDefault title x)) = ⟨after', .ok plot⟩ ∧
      after = after'.given title x := by
  induction statements generalizing context plotted with
  | nil =>
    cases run
    exact ⟨context, rfl, rfl⟩
  | cons statement rest ih =>
    rcases runFrom_cons_eq_ok run with ⟨next, shown, stepped, further⟩
    rcases step_withDefault unset (asks statement List.mem_cons_self) stepped with ⟨next', stepped', rfl, same⟩
    have rest := ih (same ▸ unset) (fun other mem => asks other (List.mem_cons_of_mem statement mem)) further
    rw [List.map_cons]
    simp only [runFrom, stepped']
    exact rest

theorem run_withDefault {limits : Limits} {statements : List (Statement α)}
    (unset : context.parameters.get? title = none)
    (asks : ∀ statement ∈ statements, ∀ e ∈ statement.expressions, e.Asks title) {plot : List α}
    (run : (context.given title x).run limits statements = ⟨after, .ok plot⟩) :
    ∃ after', context.run limits (statements.map (Statement.withDefault title x)) = ⟨after', .ok plot⟩ ∧
      after = after'.given title x := by
  have within := within_of_ok (congrArg Run.plotted run)
  rw [run_of_within within] at run
  have within' : limits.exceeded? (α := α) (statements.map (Statement.withDefault title x)).length
      context.bars.length = none := by
    rw [List.length_map]
    exact within
  rw [run_of_within within']
  exact runFrom_withDefault unset asks run

end Context

theorem run_overridden [Literal α] {title : String} (x : α) {parameters : Bindings (Value α)}
    (unset : parameters.get? title = none) {statements : List (Statement α)}
    (asks : ∀ statement ∈ statements, ∀ e ∈ statement.expressions, e.Asks title) (limits : Limits) :
    let given := parameters.insert title (.number x)
    let edited := statements.map (Statement.withDefault title x)
    (∀ bars after plot, Context.run limits { bars, parameters := given } statements = ⟨after, .ok plot⟩ →
      ∃ after', Context.run limits { bars, parameters } edited = ⟨after', .ok plot⟩ ∧
        after'.study = after.study ∧ after'.scalars = after.scalars ∧ after'.series = after.series) ∧
    ∀ input execution, Script.execute ⟨statements⟩ limits input given = .ok execution → execution.failure = none →
      Script.execute ⟨edited⟩ limits input parameters = .ok execution := by
  have runs {bars : List (Bar α)} {after : Context α} {plot : List α}
      (run : Context.run limits { bars, parameters := parameters.insert title (.number x) } statements =
        ⟨after, .ok plot⟩) :
      ∃ after', Context.run limits { bars, parameters } (statements.map (Statement.withDefault title x)) =
        ⟨after', .ok plot⟩ ∧ after = after'.given title x :=
    Context.run_withDefault unset asks run
  refine ⟨fun bars after plot run => ?_, fun input execution executed succeeds => ?_⟩
  · rcases runs run with ⟨after', run', rfl⟩
    exact ⟨after', run', rfl, rfl, rfl⟩
  · rcases exists_run_of_execute executed succeeds with ⟨stamped, after, plot, read, run, rfl⟩
    rcases runs run with ⟨after', run', rfl⟩
    have executed' : Script.execute ⟨statements.map (Statement.withDefault title x)⟩ limits input parameters =
        .ok { series := plot, failure := none, study := after'.study } :=
      execute_of_run read run'
    exact executed'

namespace Sample

/-- The input is the default of another one and the length of a window. -/
def asking : List (Statement Float) :=
  [.study { title := "Top" },
    .scalar "shift" (.call "input" [.text "shift", .call "input" [.text "n"]]),
    .series "top" (.call "highest" [.call "high" [], .call "input" [.text "n", .number 1.0]]),
    .plot (.binary (.index "top" (.number 2.0)) (.arithmetic .add) (.name "shift"))]

theorem asking_asks : ∀ statement ∈ asking, ∀ e ∈ statement.expressions, e.Asks "n" := by
  have highest : Builtin.ofName? "highest" ≠ some .input := by decide
  have high : Builtin.ofName? "high" ≠ some .input := by decide
  intro statement mem e isOf
  simp only [asking, List.mem_cons, List.not_mem_nil, or_false] at mem
  rcases mem with rfl | rfl | rfl | rfl
  · cases isOf
  all_goals
    rcases List.mem_singleton.mp isOf with rfl
    refine ⟨fun asked ⟨function, rest, named, occurs⟩ => ?_, by simp⟩
    simp at occurs <;> grind

end Sample

/-- The number for the input is 2, so the script shifts the highest of two prices by 2. -/
theorem run_overridden_sample :
    let edited := Sample.asking.map (Statement.withDefault "n" 2.0)
    Bindings.get? (β := Value Float) {} "n" = none ∧
    (∀ statement ∈ Sample.asking, ∀ e ∈ statement.expressions, e.Asks "n") ∧
    (Context.run {} { bars := Sample.bars, parameters := .ofList [("n", .number 2.0)] } Sample.asking).plotted =
      .ok [8.0, 8.0, 8.0] ∧
    (Context.run {} { bars := Sample.bars } edited).plotted = .ok [8.0, 8.0, 8.0] := by
  intro edited
  have unset : Bindings.get? (β := Value Float) {} "n" = none := rfl
  have plots : (Context.run {} { bars := Sample.bars, parameters := .ofList [("n", .number 2.0)] }
      Sample.asking).plotted = .ok [8.0, 8.0, 8.0] :=
    eq_ok_of_toOption (by decide +kernel)
  rcases run : Context.run {} { bars := Sample.bars, parameters := .ofList [("n", .number 2.0)] } Sample.asking
    with ⟨after, plotted⟩
  rw [run] at plots
  obtain rfl : plotted = .ok [8.0, 8.0, 8.0] := plots
  rcases (run_overridden 2.0 unset Sample.asking_asks {}).1 Sample.bars after [8.0, 8.0, 8.0] run with ⟨after', run', -⟩
  exact ⟨unset, Sample.asking_asks, rfl, congrArg Run.plotted run'⟩

end IndicatorScript
