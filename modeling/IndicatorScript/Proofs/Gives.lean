/-!
# What computations give

A property of the result of a computation that may fail, which is carried through the steps that the computation takes.
`Gives` is about its value only, `Yields` about its value and its failure.
-/

namespace IndicatorScript

theorem exists_of_bind_eq_ok {β γ ε : Type} {result : Except ε β} {next : β → Except ε γ} {y : γ}
    (same : (result >>= next) = .ok y) : ∃ x, result = .ok x ∧ next x = .ok y := by
  cases result with
  | error e => cases same
  | ok x => exact ⟨x, rfl, same⟩

theorem exists_of_map_eq_ok {β γ ε : Type} {result : Except ε β} {f : β → γ} {y : γ} (same : result.map f = .ok y) :
    ∃ x, result = .ok x ∧ f x = y := by
  cases result with
  | error e => cases same
  | ok x => exact ⟨x, rfl, Except.ok.inj same⟩

theorem eq_error_of_map_eq_error {β γ ε : Type} {result : Except ε β} {f : β → γ} {e : ε}
    (same : result.map f = .error e) : result = .error e := by
  cases result with
  | error e' => exact congrArg Except.error (Except.error.inj same)
  | ok x => cases same

theorem eq_ok_of_toOption {ε β : Type} {result : Except ε β} {x : β} (isSome : result.toOption = some x) :
    result = .ok x := by
  cases result with
  | error e => cases isSome
  | ok y => exact congrArg Except.ok (Option.some.inj isSome)

/-- What a computation gives, if it gives something, has the property. -/
def Gives {β ε : Type} (p : β → Prop) (result : Except ε β) : Prop :=
  ∀ x, result = .ok x → p x

namespace Gives

variable {β γ ε : Type} {p : β → Prop} {q : γ → Prop}

theorem ok {x : β} (holds : p x) : Gives (ε := ε) p (.ok x) := by
  intro y same
  cases same
  exact holds

theorem error (e : ε) : Gives p (.error e) :=
  nofun

theorem bind {result : Except ε β} {next : β → Except ε γ} (first : Gives p result)
    (second : ∀ x, p x → Gives q (next x)) : Gives q (result >>= next) := by
  intro y same
  rcases exists_of_bind_eq_ok same with ⟨x, given, same⟩
  exact second x (first x given) y same

theorem map {result : Except ε β} (holds : Gives p result) {f : β → γ} (given : ∀ x, p x → q (f x)) :
    Gives q (result.map f) := by
  intro y same
  rcases exists_of_map_eq_ok same with ⟨x, given', rfl⟩
  exact given x (holds x given')

theorem trivial (result : Except ε β) : Gives (fun _ => True) result :=
  fun _ _ => True.intro

theorem mono {p' : β → Prop} {result : Except ε β} (holds : Gives p result) (weaker : ∀ x, p x → p' x) :
    Gives p' result :=
  fun x same => weaker x (holds x same)

end Gives

/-- What a computation gives has the one property, and what it fails with the other. -/
def Yields {β ε : Type} (p : β → Prop) (q : ε → Prop) : Except ε β → Prop
  | .ok x => p x
  | .error e => q e

namespace Yields

variable {β γ ε : Type} {p p' : β → Prop} {q q' : ε → Prop} {r : γ → Prop} {result : Except ε β}

theorem bind {next : β → Except ε γ} (first : Yields p q result) (second : ∀ x, p x → Yields r q (next x)) :
    Yields r q (result >>= next) := by
  cases result with
  | error e => exact first
  | ok x => exact second x first

theorem map (yields : Yields p q result) {f : β → γ} (given : ∀ x, p x → r (f x)) : Yields r q (result.map f) := by
  cases result with
  | error e => exact yields
  | ok x => exact given x yields

theorem mono (yields : Yields p q result) (given : ∀ x, p x → p' x) (failed : ∀ e, q e → q' e) :
    Yields p' q' result := by
  cases result with
  | error e => exact failed e yields
  | ok x => exact given x yields

theorem gives (yields : Yields p q result) : Gives p result := by
  intro x same
  rwa [same] at yields

theorem of_gives (gives : Gives p result) : Yields p (fun _ => True) result := by
  cases same : result with
  | error e => trivial
  | ok x => exact gives x same

theorem fails (yields : Yields p q result) {e : ε} (failed : result = .error e) : q e := by
  rwa [failed] at yields

end Yields

end IndicatorScript
