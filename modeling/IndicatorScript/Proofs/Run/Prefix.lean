import IndicatorScript.Number.Double
import IndicatorScript.Proofs.Expr.Prefix
import IndicatorScript.Proofs.Run.Step

/-!
# Runs look at no later bar

A run that succeeds on all bars succeeds on the first of them too, unless a position that it asks for is not there yet,
and leaves the same scalars and the first values of the same series.
-/

namespace IndicatorScript

variable {α : Type}

def Context.partOfStep (n : Nat) (after : Context α × Option (List α)) : Context α × Option (List α) :=
  (after.1.part n, after.2.map (List.take n))

variable [Number α]

theorem Context.step_part (n : Nat) (context : Context α) (statement : Statement α) :
    Follows (partOfStep n) (context.step statement) ((context.part n).step statement) := by
  cases statement with
  | study header => exact .ok _
  | scalar name value =>
    refine (value.evalScalar_part n context).bind fun x => ?_
    have series : (context.part n).series.erase name = (context.series.erase name).map (List.take n) :=
      Bindings.erase_map _ _ name
    rw [series]
    exact .ok _
  | series name value =>
    refine (value.evalDeclared_part n context).bind fun values => ?_
    have series : (context.part n).series.insert name (values.take n) =
        (context.series.insert name values).map (List.take n) :=
      Bindings.insert_map _ _ name values
    rw [series]
    exact .ok _
  | plot value => exact (value.evalDeclared_part n context).bind fun values => .ok _

theorem Context.runFrom_part (n : Nat) {context after : Context α} {plotted plot : List α}
    {statements : List (Statement α)} (run : context.runFrom plotted statements = ⟨after, .ok plot⟩) :
    (context.part n).runFrom (plotted.take n) statements = ⟨after.part n, .ok (plot.take n)⟩ ∨
      ∃ i length series, ((context.part n).runFrom (plotted.take n) statements).plotted =
        .error (.outOfBounds i length series) := by
  induction statements generalizing context plotted with
  | nil =>
    cases run
    exact .inl rfl
  | cons statement rest ih =>
    rcases runFrom_cons_eq_ok run with ⟨next, shown, stepped, further⟩
    simp only [runFrom]
    rcases context.step_part n statement _ stepped with steppedPart | ⟨i, length, series, missing⟩
    · have kept : (shown.map (List.take n)).getD (plotted.take n) = (shown.getD plotted).take n := by
        cases shown <;> rfl
      rw [steppedPart]
      simp only [partOfStep, kept]
      exact ih further
    · rw [missing]
      exact .inr ⟨i, length, series, rfl⟩

omit [Number α] in
theorem Limits.exceeded?_of_le {limits : Limits} {statements bars fewer : Nat} (le : fewer ≤ bars)
    (within : limits.exceeded? (α := α) statements bars = none) :
    limits.exceeded? (α := α) statements fewer = none := by
  unfold exceeded? at within ⊢
  split at within
  · cases within
  · next few =>
    split at within
    · cases within
    · next allowed =>
      have allows : limits.bars.allows bars = true := by simpa using allowed
      rw [if_neg few, if_neg (by simp [Limit.allows_of_le allows le])]

theorem run_of_within {limits : Limits} {context : Context α} {statements : List (Statement α)}
    (within : limits.exceeded? (α := α) statements.length context.bars.length = none) :
    context.run limits statements = context.runFrom [] statements := by
  rw [Context.run, within]

theorem within_of_ok {limits : Limits} {context : Context α} {statements : List (Statement α)} {plot : List α}
    (succeeds : (context.run limits statements).plotted = .ok plot) :
    limits.exceeded? (α := α) statements.length context.bars.length = none := by
  unfold Context.run at succeeds
  split at succeeds
  · cases succeeds
  · assumption

theorem run_prefix (limits : Limits) (parameters : Bindings (Value α)) (statements : List (Statement α))
    {bars first : List (Bar α)} (isPrefix : first <+: bars) {plot : List α}
    (succeeds : (Context.run limits { bars, parameters } statements).plotted = .ok plot) :
    let whole := Context.run limits { bars, parameters } statements
    let early := Context.run limits { bars := first, parameters } statements
    (early.plotted = .ok (plot.take first.length) ∧
      (∀ name, early.context.scalars.get? name = whole.context.scalars.get? name) ∧
      ∀ name, early.context.series.get? name = (whole.context.series.get? name).map (List.take first.length)) ∨
    ∃ i length series, early.plotted = .error (.outOfBounds i length series) := by
  have cut : ({ bars := first, parameters } : Context α) = Context.part first.length { bars, parameters } := by
    rw [Context.part, ← List.prefix_iff_eq_take.mp isPrefix]
    rfl
  have within : limits.exceeded? (α := α) statements.length bars.length = none := within_of_ok succeeds
  have withinEarly := Limits.exceeded?_of_le isPrefix.length_le within
  have whole :
      Context.run limits { bars, parameters } statements = Context.runFrom { bars, parameters } [] statements :=
    run_of_within within
  have early : Context.run limits { bars := first, parameters } statements =
      Context.runFrom { bars := first, parameters } [] statements := run_of_within withinEarly
  rw [whole] at succeeds ⊢
  rw [early, cut]
  dsimp only
  rcases run : Context.runFrom { bars, parameters } [] statements with ⟨after, plotted⟩
  rw [run] at succeeds
  obtain rfl : plotted = .ok plot := succeeds
  have followed := Context.runFrom_part first.length run
  rw [List.take_nil] at followed
  rcases followed with early | missing
  · rw [early]
    exact .inl ⟨rfl, fun name => rfl, fun name => Bindings.get?_map _ _ name⟩
  · exact .inr missing

namespace Sample

def bars : List (Bar Float) := [⟨1.0, 3.0, 1.0, 2.0, 10.0⟩, ⟨2.0, 5.0, 2.0, 4.0, 20.0⟩, ⟨4.0, 6.0, 3.0, 5.0, 30.0⟩]

def travelled : List (Statement Float) :=
  [.series "middle" (.call "hl2" []), .scalar "first" (.index "middle" (.number 0.0)),
    .plot (.binary (.name "middle") (.arithmetic .subtract) (.name "first"))]

theorem travelled_plotted : (Context.run {} { bars } travelled).plotted = .ok [0.0, 1.5, 2.5] :=
  eq_ok_of_toOption (by decide +kernel)

end Sample

theorem run_prefix_sample :
    Sample.bars.take 1 <+: Sample.bars ∧
    (Context.run {} { bars := Sample.bars } Sample.travelled).plotted = .ok [0.0, 1.5, 2.5] ∧
    let whole := Context.run {} { bars := Sample.bars } Sample.travelled
    let early := Context.run {} { bars := Sample.bars.take 1 } Sample.travelled
    ((early.plotted = .ok [0.0] ∧
      (∀ name, early.context.scalars.get? name = whole.context.scalars.get? name) ∧
      ∀ name, early.context.series.get? name = (whole.context.series.get? name).map (List.take 1)) ∨
    ∃ i length series, early.plotted = .error (.outOfBounds i length series)) :=
  ⟨List.take_prefix 1 _, Sample.travelled_plotted,
    run_prefix {} {} Sample.travelled (List.take_prefix 1 _) Sample.travelled_plotted⟩

end IndicatorScript
