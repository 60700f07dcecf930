import IndicatorScript.Number.Double
import IndicatorScript.Proofs.Expr.Parameters

/-!
# Series where a scalar is wanted

Lengths, numbers, titles, defaults and positions are evaluated to a single value without a look at their kind. An
expression of the series kind has no such value (`evalScalar_of_series`): evaluation comes to a call that produces a
series, or to the name of one. Only where a scalar or a parameter has the same name as a series does it go on
(`shares_of_evalScalar`).
-/

namespace IndicatorScript

variable {α : Type}

/-- No scalar and no parameter has the name of a series. -/
def Context.Apart (context : Context α) : Prop :=
  ∀ name, context.hasSeries name = true →
    context.scalars.contains name = false ∧ context.parameters.contains name = false

namespace Expr

variable {context : Context α} {declared : String → Bool}

/-- The expression has a name that stands for a series, and for a single value as well. -/
def Shares (context : Context α) (e : Expr α) (n : String) : Prop :=
  (name n).OccursIn e ∧ context.hasSeries n = true ∧ (context.scalar? n).isSome = true

theorem Shares.of_occursIn {part e : Expr α} {n : String} (shares : part.Shares context n) (occurs : part.OccursIn e) :
    e.Shares context n :=
  ⟨shares.1.trans occurs, shares.2⟩

theorem kind_eq_series_iff {e : Expr α} : e.kind declared = .series ↔ e.isSeries declared = true := by
  unfold kind
  cases e.isSeries declared <;> simp

theorem exists_of_anySeries {arguments : List (Expr α)} (any : anySeries declared arguments = true) :
    ∃ a ∈ arguments, a.isSeries declared = true := by
  induction arguments with
  | nil => cases any
  | cons a rest ih =>
    rw [anySeries, Bool.or_eq_true] at any
    rcases any with first | others
    · exact ⟨a, List.mem_cons_self, first⟩
    · rcases ih others with ⟨b, mem, isSeries⟩
      exact ⟨b, List.mem_cons_of_mem a mem, isSeries⟩

theorem exists_of_isSeries_call {function : String} {arguments : List (Expr α)}
    (isSeries : (call function arguments).isSeries declared = true) :
    ∃ builtin, Builtin.ofName? function = some builtin ∧
      (builtin.signature.produces = .series ∨ ∃ a ∈ arguments, a.isSeries declared = true) := by
  rw [Expr.isSeries] at isSeries
  split at isSeries
  · cases isSeries
  next builtin named =>
  refine ⟨builtin, named, ?_⟩
  split at isSeries
  · cases isSeries
  · next produces => exact .inl produces
  · exact .inr (exists_of_anySeries isSeries)

variable [Number α]

theorem evalScalar_call_gives (function : String) (arguments : List (Expr α)) :
    Gives
      (fun _ => (∀ builtin, Builtin.ofName? function = some builtin → builtin.signature.produces ≠ .series) ∧
        ∀ a ∈ arguments, ∃ value, a.evalScalar context = .ok value)
      ((call function arguments).evalScalar context) := by
  intro value given
  rw [evalScalar] at given
  split at given
  · cases given
  next builtin named =>
  split at given
  · cases given
  next other =>
  refine ⟨fun found named' => Option.some.inj (named.symm.trans named') ▸ other, ?_⟩
  split at given
  · rcases exists_of_bind_eq_ok given with ⟨first, evaluated, -⟩
    simp [evaluated]
  · rcases exists_of_bind_eq_ok given with ⟨first, evaluated, given⟩
    rcases exists_of_bind_eq_ok given with ⟨_, -, given⟩
    rcases exists_of_bind_eq_ok given with ⟨second, evaluated', -⟩
    simp [evaluated, evaluated']
  · rcases exists_of_bind_eq_ok given with ⟨title, evaluated, -⟩
    simp [evaluated]
  · rcases exists_of_bind_eq_ok given with ⟨title, evaluated, given⟩
    rcases exists_of_bind_eq_ok given with ⟨_, -, given⟩
    rcases exists_of_bind_eq_ok given with ⟨default, evaluated', -⟩
    simp [evaluated, evaluated']
  · cases given

theorem shares_of_evalScalar (e : Expr α) (isSeries : e.isSeries context.hasSeries = true) :
    Gives (fun _ => ∃ n, e.Shares context n) (e.evalScalar context) := by
  induction e using Expr.induction with
  | number | text | boolean | index => cases isSeries
  | name n =>
    rw [evalScalar]
    split
    · next value bound => exact .ok ⟨n, .self, isSeries, by rw [bound]; rfl⟩
    · exact .error _
  | call function arguments ih =>
    refine (evalScalar_call_gives function arguments).mono fun _ strict => ?_
    rcases strict with ⟨scalar, each⟩
    rcases exists_of_isSeries_call isSeries with ⟨builtin, named, produces | ⟨a, mem, isSeries⟩⟩
    · exact absurd produces (scalar builtin named)
    · rcases each a mem with ⟨value, evaluated⟩
      rcases ih a mem isSeries value evaluated with ⟨n, shares⟩
      exact ⟨n, shares.of_occursIn (.argument mem .self)⟩
  | binary left op right ihLeft ihRight =>
    rw [Expr.isSeries, Bool.or_eq_true] at isSeries
    rw [evalScalar]
    rcases isSeries with isSeries | isSeries
    · refine (ihLeft isSeries).bind fun _ shared => (Gives.trivial _).mono fun _ _ => ?_
      exact shared.imp fun n shares => shares.of_occursIn (.left .self)
    · refine (Gives.trivial _).bind fun _ _ => (ihRight isSeries).bind fun _ shared =>
        (Gives.trivial _).mono fun _ _ => ?_
      exact shared.imp fun n shares => shares.of_occursIn (.right .self)

end Expr

theorem Context.Apart.not_shares {context : Context α} (apart : context.Apart) (e : Expr α) (n : String) :
    ¬ e.Shares context n := by
  rintro ⟨-, isSeries, bound⟩
  rcases apart n isSeries with ⟨noScalar, noParameter⟩
  simp only [Bindings.contains, Option.isSome_eq_false_iff, Option.isNone_iff_eq_none] at noScalar noParameter
  rw [Context.scalar?, noScalar, noParameter] at bound
  cases bound

theorem evalScalar_of_series [Number α] {context : Context α} (apart : context.Apart) (e : Expr α)
    (isSeries : e.kind context.hasSeries = .series) : ∃ err, e.evalScalar context = .error err := by
  cases evaluated : e.evalScalar context with
  | error err => exact ⟨err, rfl⟩
  | ok value =>
    rcases Expr.shares_of_evalScalar e (Expr.kind_eq_series_iff.mp isSeries) value evaluated with ⟨n, shares⟩
    exact absurd shares (apart.not_shares e n)

namespace Sample

def threeNames : Context Float :=
  { bars := []
    parameters := ⟨[("length", .integer 3)]⟩
    scalars := ⟨[("limit", .number 2.0)]⟩
    series := ⟨[("spread", [1.0, 4.0])]⟩ }

theorem threeNames_apart : threeNames.Apart := by
  intro name isSeries
  by_cases same : name = "spread"
  · subst same
    decide
  · have other : (name == "spread") = false := beq_eq_false_iff_ne.mpr same
    simp [Context.hasSeries, Bindings.contains, Bindings.get?, threeNames, List.lookup_cons, other] at isSeries

/-- `length + max(limit, abs(spread))` -/
def misplaced : Expr Float :=
  .binary (.name "length") (.arithmetic .add) (.call "max" [.name "limit", .call "abs" [.name "spread"]])

end Sample

theorem evalScalar_of_series_sample :
    Sample.threeNames.Apart ∧ Sample.misplaced.kind Sample.threeNames.hasSeries = .series ∧
      ∃ err, Sample.misplaced.evalScalar Sample.threeNames = .error err :=
  ⟨Sample.threeNames_apart, rfl, evalScalar_of_series Sample.threeNames_apart Sample.misplaced rfl⟩

end IndicatorScript
