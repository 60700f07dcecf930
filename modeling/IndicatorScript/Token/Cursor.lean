import IndicatorScript.SyntaxError

/-!
# Reading from a list of tokens

A parser takes the tokens ahead and gives back what it read and the tokens that are left. The end of the script is not
among them: where none is left, the end stands there, on the last line.
-/

namespace IndicatorScript

structure Bounds where
  /-- How deeply expressions may nest. -/
  limit : Limit
  lastLine : Int

abbrev Parser (β : Type) := List Token → Except SyntaxError (β × List Token)

namespace Bounds

variable (bounds : Bounds)

def next : List Token → Token
  | [] => ⟨.endOfScript, "", bounds.lastLine⟩
  | t :: _ => t

def fail {β : Type} (cause : SyntaxError.Cause) (tokens : List Token) : Except SyntaxError β :=
  .error ⟨cause, (bounds.next tokens).line⟩

def tooDeep {β : Type} (tokens : List Token) : Except SyntaxError β :=
  bounds.fail (.tooDeep bounds.limit) tokens

def unexpected {β : Type} (what : Expectation) (tokens : List Token) : Except SyntaxError β :=
  bounds.fail (.expected what (bounds.next tokens)) tokens

def expect (kind : Token.Kind) (what : Expectation) : Parser Token
  | t :: rest => if t.kind = kind then .ok (t, rest) else bounds.unexpected what (t :: rest)
  | [] => bounds.unexpected what []

end Bounds

/-- One item, and one more after each comma. An item that reads nothing would be the last. -/
def separated {β : Type} (item : Parser β) (tokens : List Token) : Except SyntaxError (List β × List Token) := do
  let (x, rest) ← item tokens
  match rest with
  | [] => .ok ([x], [])
  | t :: after =>
      if t.kind = .comma ∧ after.length < tokens.length then
        let (xs, rest) ← separated item after
        .ok (x :: xs, rest)
      else .ok ([x], t :: after)
  termination_by tokens.length
  decreasing_by simp_all

def Token.content (t : Token) : String :=
  String.ofList (t.lexeme.toList.drop 1).dropLast

end IndicatorScript
