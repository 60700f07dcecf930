import IndicatorScript.Proofs.Gives
import IndicatorScript.Proofs.Token.Layout
import IndicatorScript.Token.Cursor

/-!
# What a parser has read

A parser that succeeds has read the tokens in front of those that it leaves. `Reads` says what these tokens have to do
with what the parser gives, for tokens that are spelled right, and is carried through the steps that a parser takes.
-/

namespace IndicatorScript

def Spelled (tokens : List Token) : Prop := ∀ t ∈ tokens, t.word.Spelled

theorem Spelled.rest {used rest : List Token} (spelled : Spelled (used ++ rest)) : Spelled rest :=
  fun t mem => spelled t (List.mem_append_right used mem)

theorem Spelled.inside {tokens : List Token} {t : Token} (spelled : Spelled tokens) (mem : t ∈ tokens) :
    t.kind ≠ .endOfScript := by
  intro ends
  have never := spelled t mem
  rw [Token.Word.Spelled, show t.word.kind = .endOfScript from ends] at never
  exact never

theorem Spelled.tail {t : Token} {rest : List Token} (spelled : Spelled (t :: rest)) : Spelled rest :=
  fun u mem => spelled u (List.mem_cons_of_mem t mem)

theorem Spelled.first {used rest : List Token} (spelled : Spelled (used ++ rest)) : Spelled used :=
  fun t mem => spelled t (List.mem_append_left rest mem)

def Reads {β : Type} (p : List Token → β → Prop) (tokens : List Token)
    (result : Except SyntaxError (β × List Token)) : Prop :=
  Spelled tokens → Gives (fun out => ∃ used, tokens = used ++ out.2 ∧ p used out.1) result

namespace Reads

variable {β γ : Type} {p : List Token → β → Prop} {q : List Token → γ → Prop} {tokens rest : List Token} {t : Token}

theorem ok {x : β} (holds : p [] x) : Reads p tokens (.ok (x, tokens)) :=
  fun _ => .ok ⟨[], rfl, holds⟩

theorem error (e : SyntaxError) : Reads p tokens (.error e) :=
  fun _ => .error e

theorem cons {result : Except SyntaxError (β × List Token)} (further : Reads (fun used => p (t :: used)) rest result) :
    Reads p (t :: rest) result := by
  intro spelled
  refine (further spelled.tail).mono fun out read => ?_
  rcases read with ⟨used, same, holds⟩
  exact ⟨t :: used, congrArg (t :: ·) same, holds⟩

theorem bind {result : Except SyntaxError (β × List Token)}
    {next : β × List Token → Except SyntaxError (γ × List Token)} (first : Reads p tokens result)
    (second : ∀ x used rest, p used x → Reads (fun more => q (used ++ more)) rest (next (x, rest))) :
    Reads q tokens (result >>= next) := by
  intro spelled
  refine (first spelled).bind fun out read => ?_
  rcases out with ⟨x, rest⟩
  rcases read with ⟨used, rfl, holds⟩
  refine (second x used rest holds spelled.rest).mono fun further read => ?_
  rcases read with ⟨more, same, holds⟩
  refine ⟨used ++ more, ?_, holds⟩
  rw [same, List.append_assoc]

theorem mono {p' : List Token → β → Prop} {result : Except SyntaxError (β × List Token)} (reads : Reads p tokens result)
    (weaker : ∀ used x, p used x → p' used x) : Reads p' tokens result := by
  intro spelled
  refine (reads spelled).mono fun out read => ?_
  rcases read with ⟨used, same, holds⟩
  exact ⟨used, same, weaker used out.1 holds⟩

theorem ofHead {result : Except SyntaxError (β × List Token)} (reads : t.word.Spelled → Reads p (t :: rest) result) :
    Reads p (t :: rest) result :=
  fun spelled => reads (spelled t List.mem_cons_self) spelled

theorem expect (bounds : Bounds) (kind : Token.Kind) (what : Expectation) (tokens : List Token) :
    Reads (fun used t => used = [t] ∧ t.kind = kind) tokens (bounds.expect kind what tokens) := by
  cases tokens with
  | nil => exact .error _
  | cons t rest =>
    simp only [Bounds.expect]
    split
    · next same =>
      refine .cons (.ok ?_)
      exact ⟨rfl, same⟩
    · exact .error _

end Reads

end IndicatorScript
