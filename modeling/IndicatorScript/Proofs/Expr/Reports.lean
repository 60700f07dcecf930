import IndicatorScript.Proofs.Expr.Productions
import IndicatorScript.Proofs.Gives

/-!
# What the parser reports

A parser that succeeds leaves the last ones of its tokens. A parser that fails blames one of them, or the end of the
script, and the cause fits the token that it blames (`expression_reports`).
-/

namespace IndicatorScript

/-- What a cause says of the token that is blamed. -/
def SyntaxError.Cause.Fits (α : Type) [Literal α] (bounds : Bounds) (t : Token) : SyntaxError.Cause → Prop
  | .unexpectedToken found | .expected _ found => found = t
  | .expectedEqual _ => t.kind ≠ .equal
  | .tooDeep limit => limit = bounds.limit
  | .notCallable => t.kind = .leftParen
  | .notIndexable => t.kind = .leftBracket
  | .unreadableNumber lexeme => t.kind = .number ∧ t.lexeme = lexeme ∧ Literal.read? (α := α) lexeme = none
  | .unexpectedCharacter _ | .unterminatedString => False

def SyntaxError.Blames (α : Type) [Literal α] (bounds : Bounds) (tokens : List Token) (e : SyntaxError) : Prop :=
  ∃ t, (t ∈ tokens ∨ t = bounds.next []) ∧ e.line = t.line ∧ e.cause.Fits α bounds t

def Reports (α : Type) [Literal α] (bounds : Bounds) {β : Type} (tokens : List Token)
    (result : Except SyntaxError (β × List Token)) : Prop :=
  Yields (fun out => out.2 <:+ tokens) (SyntaxError.Blames α bounds tokens) result

variable {α : Type} [Literal α] {bounds : Bounds} {β γ : Type} {tokens rest : List Token}

theorem SyntaxError.Blames.of_suffix {e : SyntaxError} (blames : e.Blames α bounds rest) (suffix : rest <:+ tokens) :
    e.Blames α bounds tokens := by
  rcases blames with ⟨t, ahead, line, fits⟩
  exact ⟨t, ahead.imp_left fun mem => suffix.subset mem, line, fits⟩

theorem Yields.of_suffix {p : β → Prop} {result : Except SyntaxError β}
    (yields : Yields p (SyntaxError.Blames α bounds rest) result) (suffix : rest <:+ tokens) :
    Yields p (SyntaxError.Blames α bounds tokens) result :=
  yields.mono (fun _ => id) fun _ blames => blames.of_suffix suffix

theorem Bounds.next_mem (bounds : Bounds) (tokens : List Token) :
    bounds.next tokens ∈ tokens ∨ bounds.next tokens = bounds.next [] := by
  cases tokens with
  | nil => exact .inr rfl
  | cons t rest => exact .inl List.mem_cons_self

namespace Reports

theorem ok (x : β) : Reports α bounds tokens (.ok (x, tokens)) :=
  List.suffix_refl tokens

theorem of_suffix {result : Except SyntaxError (β × List Token)} (reports : Reports α bounds rest result)
    (suffix : rest <:+ tokens) : Reports α bounds tokens result :=
  (Yields.of_suffix reports suffix).mono (fun _ left => left.trans suffix) fun _ => id

theorem cons {t : Token} {result : Except SyntaxError (β × List Token)} (reports : Reports α bounds rest result) :
    Reports α bounds (t :: rest) result :=
  reports.of_suffix (List.suffix_cons t rest)

theorem bindWhole {result : Except SyntaxError (β × List Token)}
    {next : β × List Token → Except SyntaxError (γ × List Token)} (first : Reports α bounds tokens result)
    (second : ∀ x rest, rest <:+ tokens → Reports α bounds tokens (next (x, rest))) :
    Reports α bounds tokens (result >>= next) :=
  Yields.bind first fun out suffix => second out.1 out.2 suffix

theorem bind {result : Except SyntaxError (β × List Token)}
    {next : β × List Token → Except SyntaxError (γ × List Token)} (first : Reports α bounds tokens result)
    (second : ∀ x rest, Reports α bounds rest (next (x, rest))) : Reports α bounds tokens (result >>= next) :=
  first.bindWhole fun x rest suffix => (second x rest).of_suffix suffix

theorem fail {cause : SyntaxError.Cause} (fits : cause.Fits α bounds (bounds.next tokens)) :
    Reports α bounds (β := β) tokens (bounds.fail cause tokens) :=
  ⟨bounds.next tokens, bounds.next_mem tokens, rfl, fits⟩

theorem tooDeep (tokens : List Token) : Reports α bounds (β := β) tokens (bounds.tooDeep tokens) :=
  fail rfl

theorem error {t : Token} {cause : SyntaxError.Cause} (fits : cause.Fits α bounds t) :
    Reports α bounds (β := β) (t :: rest) (.error ⟨cause, t.line⟩) :=
  ⟨t, .inl List.mem_cons_self, rfl, fits⟩

theorem expect (kind : Token.Kind) (what : Expectation) (tokens : List Token) :
    Reports α bounds tokens (bounds.expect kind what tokens) := by
  cases tokens with
  | nil => exact .fail rfl
  | cons t rest =>
    simp only [Bounds.expect]
    split
    · exact .cons (.ok t)
    · exact .fail rfl

theorem followed {parsed : Except SyntaxError (β × List Token)} (part : Reports α bounds tokens parsed)
    (kind : Token.Kind) (what : Expectation) : Reports α bounds tokens (Expr.followed bounds kind what parsed) :=
  part.bind fun x rest => (expect kind what rest).bind fun _ _ => .ok x

end Reports

theorem separated_reports {item : Parser β} (each : ∀ tokens, Reports α bounds tokens (item tokens))
    (tokens : List Token) : Reports α bounds tokens (separated item tokens) := by
  induction tokens using separated.induct with
  | _ tokens ih =>
    rw [separated]
    refine (each tokens).bind fun x rest => ?_
    cases rest with
    | nil => exact .ok [x]
    | cons t after =>
      dsimp only
      split
      · next comma => exact .cons ((ih t after comma).bind fun xs rest => .ok (x :: xs))
      · exact .ok [x]

namespace Expr

abbrev reporting (α : Type) [Literal α] (bounds : Bounds) : Motive α where
  expression _ := Reports α bounds
  chained _ _ := Reports α bounds
  chain _ _ _ := Reports α bounds
  operand _ _ := Reports α bounds
  signed _ := Reports α bounds
  suffixed _ := Reports α bounds
  suffixes _ _ _ := Reports α bounds
  arguments _ := Reports α bounds
  primary _ := Reports α bounds

theorem reporting_productions : (reporting α bounds).Productions bounds := by
  constructor
  all_goals dsimp only
  case noRoom => exact .tooDeep
  case whole | signNil => exact id
  case chained | suffixed => exact fun first further => first.bind further
  case chainNil => exact fun _ _ left => .ok left
  case chainEnds => exact fun _ left _ _ => .ok left
  case chainTooDeep => exact fun _ rest _ => .cons (.tooDeep rest)
  case chainGoesOn => exact fun _ operand further => .cons (operand.bind further)
  case tighter | tightest | unsigned => exact fun _ part => part
  case signTooDeep => exact fun rest _ => .cons (.tooDeep rest)
  case sign => exact fun _ operand => .cons (operand.bind fun _ _ => .ok _)
  case suffixNil => exact fun _ e _ => .ok e
  case suffixEnds => exact fun _ e _ _ _ _ => .ok e
  case call => exact fun _ _ inside further => .cons (inside.bind further)
  case notCallable => exact fun _ opens inside => inside.cons.bindWhole fun _ _ _ => .error opens
  case index =>
    intro _ _ _ _ _ _ _ _ _ inside further
    exact .cons (inside.bind fun position rest => (Reports.expect _ _ rest).bind fun _ rest => further position rest)
  case notIndexable =>
    intro _ _ _ _ _ _ opens inside
    refine inside.cons.bindWhole fun _ rest left => ?_
    exact ((Reports.expect _ _ rest).of_suffix left).bindWhole fun _ _ _ => .error opens
  case noArguments => exact fun _ _ => Reports.followed (.ok []) _ _
  case arguments => exact fun _ each => (separated_reports each _).followed _ _
  case primaryNil => exact fun _ => .fail rfl
  case leaf => exact fun _ _ _ => .cons (.ok _)
  case unreadable => exact fun _ _ isNumber unread => .error ⟨isNumber, rfl, unread⟩
  case parenthesised => exact fun _ inside => .cons (inside.followed _ _)
  case noStart => exact fun _ _ _ => .fail rfl

theorem reporting_holds (bounds : Bounds) : (reporting α bounds).Holds bounds :=
  Motive.of_productions reporting_productions

theorem expression_reports (bounds : Bounds) (room : Nat) (tokens : List Token) :
    Reports α bounds tokens (expression (α := α) bounds room tokens) :=
  (reporting_holds bounds).expression room tokens

end Expr

end IndicatorScript
