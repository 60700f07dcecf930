import IndicatorScript.Expr
import IndicatorScript.Token.Cursor

/-!
# Parsing expressions

Operators bind, from loosest to tightest: `or`, `and`, equality, comparison, addition, multiplication, signs, and calls
and positions. Chains of operators of one tier are read from left to right.

`room` is how many more levels an expression may nest. A whole expression takes one, each sign takes one for its
operand, and each operator of a chain takes one for the rest of the chain, since it adds a level to the tree. What a
chain has taken is free again after it. So every call below either has less room or reads a tighter form.
-/

namespace IndicatorScript

inductive Tier where
  | or | and | equality | comparison | additive | multiplicative
  deriving DecidableEq, Repr

namespace Tier

def tighter? : Tier → Option Tier
  | .or => some .and
  | .and => some .equality
  | .equality => some .comparison
  | .comparison => some .additive
  | .additive => some .multiplicative
  | .multiplicative => none

def rank : Tier → Nat
  | .or => 6
  | .and => 5
  | .equality => 4
  | .comparison => 3
  | .additive => 2
  | .multiplicative => 1

theorem rank_tighter {tier next : Tier} (h : tier.tighter? = some next) : next.rank < tier.rank := by
  cases tier <;> cases h <;> decide

def ofKind? : Token.Kind → Option Tier
  | .or => some .or
  | .and => some .and
  | .bangEqual | .equalEqual => some .equality
  | .greater | .greaterEqual | .less | .lessEqual => some .comparison
  | .minus | .plus => some .additive
  | .slash | .star => some .multiplicative
  | _ => none

/-- The operator that a token stands for in a chain of this tier. The two words have two spellings each. -/
def operator? (tier : Tier) (t : Token) : Option Operator :=
  if ofKind? t.kind = some tier then
    match tier with
    | .or => some (.test .or)
    | .and => some (.test .and)
    | _ => some (.ofSymbol t.lexeme)
  else none

end Tier

namespace Expr

def name? {α : Type} : Expr α → Option String
  | .name n => some n
  | _ => none

variable {α : Type} [Literal α] (bounds : Bounds)

mutual

def expression (room : Nat) (tokens : List Token) : Except SyntaxError (Expr α × List Token) :=
  match room with
  | 0 => bounds.tooDeep tokens
  | room + 1 => chained .or room tokens
  termination_by (room, 0)

def chained (tier : Tier) (room : Nat) (tokens : List Token) : Except SyntaxError (Expr α × List Token) := do
  let (first, rest) ← operand tier room tokens
  chain tier room first rest
  termination_by (room, 2 * tier.rank + 5)

def operand (tier : Tier) (room : Nat) (tokens : List Token) : Except SyntaxError (Expr α × List Token) :=
  match _h : tier.tighter? with
  | some next => chained next room tokens
  | none => signed room tokens
  termination_by (room, 2 * tier.rank + 4)
  decreasing_by
    · have := Tier.rank_tighter (by assumption); exact Prod.Lex.right _ (by omega)
    · exact Prod.Lex.right _ (by cases tier <;> decide)

def chain (tier : Tier) (room : Nat) (left : Expr α) (tokens : List Token) :
    Except SyntaxError (Expr α × List Token) :=
  match tokens with
  | [] => .ok (left, [])
  | t :: rest =>
      match tier.operator? t with
      | none => .ok (left, t :: rest)
      | some op =>
          match room with
          | 0 => bounds.tooDeep rest
          | room + 1 => do
              let (right, rest) ← operand tier room rest
              chain tier room (.binary left op right) rest
  termination_by (room, 0)

def signed (room : Nat) (tokens : List Token) : Except SyntaxError (Expr α × List Token) :=
  match tokens with
  | [] => suffixed room []
  | t :: rest =>
      if t.kind = .bang ∨ t.kind = .minus then
        match room with
        | 0 => bounds.tooDeep rest
        | room + 1 => do
            let (right, rest) ← signed room rest
            .ok (.binary (.number Literal.zero) (.ofSymbol t.lexeme) right, rest)
      else suffixed room (t :: rest)
  termination_by (room, 5)

def suffixed (room : Nat) (tokens : List Token) : Except SyntaxError (Expr α × List Token) := do
  let (e, rest) ← primary room tokens
  suffixes room e e.name? rest
  termination_by (room, 4)
  decreasing_by
    · exact Prod.Lex.right _ (by decide)
    · exact Prod.Lex.right _ (by cases e.name? <;> simp)

/-- The arguments and positions that follow an expression. One of them can follow a name, and none anything else. -/
def suffixes (room : Nat) (e : Expr α) (name : Option String) (tokens : List Token) :
    Except SyntaxError (Expr α × List Token) :=
  match tokens with
  | [] => .ok (e, [])
  | t :: rest =>
      if t.kind = .leftParen then do
        let (arguments, rest) ← arguments room rest
        match name with
        | some function => suffixes room (.call function arguments) none rest
        | none => .error ⟨.notCallable, t.line⟩
      else if t.kind = .leftBracket then do
        let (position, rest) ← expression room rest
        let (_, rest) ← bounds.expect .rightBracket .bracketAfterIndex rest
        match name with
        | some series => suffixes room (.index series position) none rest
        | none => .error ⟨.notIndexable, t.line⟩
      else .ok (e, t :: rest)
  termination_by (room, name.toList.length + 2)

def arguments (room : Nat) (tokens : List Token) : Except SyntaxError (List (Expr α) × List Token) := do
  let (arguments, rest) ←
    if (bounds.next tokens).kind = .rightParen then .ok ([], tokens)
    else separated (fun tokens => expression room tokens) tokens
  let (_, rest) ← bounds.expect .rightParen .parenAfterArguments rest
  .ok (arguments, rest)
  termination_by (room, 1)

def primary (room : Nat) (tokens : List Token) : Except SyntaxError (Expr α × List Token) :=
  match tokens with
  | [] => bounds.fail (.unexpectedToken (bounds.next [])) []
  | t :: rest =>
      match t.kind with
      | .boolean => .ok (.boolean (t.lexeme = "true"), rest)
      | .number =>
          match Literal.read? t.lexeme with
          | some value => .ok (.number value, rest)
          | none => .error ⟨.unreadableNumber t.lexeme, t.line⟩
      | .string => .ok (.text t.content, rest)
      | .identifier => .ok (.name t.lexeme, rest)
      | .leftParen => do
          let (e, rest) ← expression room rest
          let (_, rest) ← bounds.expect .rightParen .parenAfterExpression rest
          .ok (e, rest)
      | _ => bounds.fail (.unexpectedToken t) (t :: rest)
  termination_by (room, 1)

end

end Expr

end IndicatorScript
