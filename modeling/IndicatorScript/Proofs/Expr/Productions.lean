import IndicatorScript.Expr.Parser

/-!
# Productions of expressions

The parsers of the forms call each other, so what is said of one of them is shown together with what is said of the
others. The induction for that is done once, here: a `Motive` says something of what each parser makes of tokens, and if
it holds of what each production makes of its parts, then it holds of all that is parsed (`Motive.of_productions`).
-/

namespace IndicatorScript.Expr

variable {α β : Type}

/-- A token that is an expression by itself. -/
inductive Leaf [Literal α] (t : Token) : Expr α → Prop where
  | boolean (kind : t.kind = .boolean) : Leaf t (.boolean (t.lexeme = "true"))
  | number {x : α} (kind : t.kind = .number) (reads : Literal.read? t.lexeme = some x) : Leaf t (.number x)
  | text (kind : t.kind = .string) : Leaf t (.text t.content)
  | name (kind : t.kind = .identifier) : Leaf t (.name t.lexeme)

/-- No expression begins with a token of this kind. -/
structure NoStart (t : Token) : Prop where
  boolean : t.kind ≠ .boolean
  number : t.kind ≠ .number
  text : t.kind ≠ .string
  name : t.kind ≠ .identifier
  opening : t.kind ≠ .leftParen

def followed (bounds : Bounds) (kind : Token.Kind) (what : Expectation)
    (parsed : Except SyntaxError (β × List Token)) : Except SyntaxError (β × List Token) :=
  parsed >>= fun out => bounds.expect kind what out.2 >>= fun closing => .ok (out.1, closing.2)

structure Motive (α : Type) where
  expression : (room : Nat) → List Token → Except SyntaxError (Expr α × List Token) → Prop
  chained : Tier → (room : Nat) → List Token → Except SyntaxError (Expr α × List Token) → Prop
  chain : Tier → (room : Nat) → (left : Expr α) → List Token → Except SyntaxError (Expr α × List Token) → Prop
  operand : Tier → (room : Nat) → List Token → Except SyntaxError (Expr α × List Token) → Prop
  signed : (room : Nat) → List Token → Except SyntaxError (Expr α × List Token) → Prop
  suffixed : (room : Nat) → List Token → Except SyntaxError (Expr α × List Token) → Prop
  suffixes : (room : Nat) → (e : Expr α) → (name : Option String) → List Token →
    Except SyntaxError (Expr α × List Token) → Prop
  arguments : (room : Nat) → List Token → Except SyntaxError (List (Expr α) × List Token) → Prop
  primary : (room : Nat) → List Token → Except SyntaxError (Expr α × List Token) → Prop

variable [Literal α] {bounds : Bounds} {room : Nat} {tokens : List Token} {tier : Tier}

theorem operand_of_tightest (tightest : tier.tighter? = none) :
    operand (α := α) bounds tier room tokens = signed bounds room tokens := by
  rw [operand]
  split
  · next h => rw [tightest] at h; cases h
  · rfl

theorem operand_of_next {next : Tier} (isNext : tier.tighter? = some next) :
    operand (α := α) bounds tier room tokens = chained bounds next room tokens := by
  rw [operand]
  split
  · next h => rw [Option.some.inj (isNext.symm.trans h)]
  · next h => rw [isNext] at h; cases h

theorem primary_of_leaf {t : Token} {e : Expr α} (leaf : Leaf t e) (rest : List Token) :
    primary bounds room (t :: rest) = .ok (e, rest) := by
  cases leaf with
  | boolean kind => rw [primary, kind]
  | number kind reads =>
    rw [primary, kind]
    dsimp only
    rw [reads]
  | text kind => rw [primary, kind]
  | name kind => rw [primary, kind]

theorem primary_of_unreadable {t : Token} (isNumber : t.kind = .number)
    (unread : Literal.read? (α := α) t.lexeme = none) (rest : List Token) :
    primary (α := α) bounds room (t :: rest) = .error ⟨.unreadableNumber t.lexeme, t.line⟩ := by
  rw [primary, isNumber]
  dsimp only
  rw [unread]

theorem primary_of_noStart {t : Token} (noStart : NoStart t) (rest : List Token) :
    primary (α := α) bounds room (t :: rest) = bounds.fail (.unexpectedToken t) (t :: rest) := by
  rw [primary]
  split
  · exact absurd ‹_› noStart.boolean
  · exact absurd ‹_› noStart.number
  · exact absurd ‹_› noStart.text
  · exact absurd ‹_› noStart.name
  · exact absurd ‹_› noStart.opening
  · rfl

theorem signed_of_sign {t : Token} (isSign : t.kind = .bang ∨ t.kind = .minus) (rest : List Token) :
    signed (α := α) bounds (room + 1) (t :: rest) = signed bounds room rest >>= fun out =>
      .ok (.binary (.number Literal.zero) (.ofSymbol t.lexeme) out.1, out.2) := by
  rw [signed.eq_def]
  exact if_pos isSign

theorem signed_of_sign_zero {t : Token} (isSign : t.kind = .bang ∨ t.kind = .minus) (rest : List Token) :
    signed (α := α) bounds 0 (t :: rest) = bounds.tooDeep rest := by
  rw [signed.eq_def]
  exact if_pos isSign

theorem signed_of_noSign {t : Token} (noSign : ¬ (t.kind = .bang ∨ t.kind = .minus)) (rest : List Token) :
    signed (α := α) bounds room (t :: rest) = suffixed bounds room (t :: rest) := by
  rw [signed.eq_def]
  exact if_neg noSign

namespace Motive

/-- A motive holds of what each production makes of its parts. -/
structure Productions (motive : Motive α) (bounds : Bounds) : Prop where
  -- whole expressions
  noRoom (tokens : List Token) : motive.expression 0 tokens (bounds.tooDeep tokens)
  whole {room : Nat} {tokens : List Token} {parsed : Except SyntaxError (Expr α × List Token)}
    (inside : motive.chained .or room tokens parsed) : motive.expression (room + 1) tokens parsed
  -- chains and their operands
  chained {tier : Tier} {room : Nat} {tokens : List Token} {parsed : Except SyntaxError (Expr α × List Token)}
    {next : Expr α × List Token → Except SyntaxError (Expr α × List Token)}
    (first : motive.operand tier room tokens parsed)
    (further : ∀ left rest, motive.chain tier room left rest (next (left, rest))) :
    motive.chained tier room tokens (parsed >>= next)
  chainNil (tier : Tier) (room : Nat) (left : Expr α) : motive.chain tier room left [] (.ok (left, []))
  chainEnds {tier : Tier} {t : Token} (room : Nat) (left : Expr α) (rest : List Token)
    (other : tier.operator? t = none) : motive.chain tier room left (t :: rest) (.ok (left, t :: rest))
  chainTooDeep {tier : Tier} {t : Token} {op : Operator} (left : Expr α) (rest : List Token)
    (isOperator : tier.operator? t = some op) : motive.chain tier 0 left (t :: rest) (bounds.tooDeep rest)
  chainGoesOn {tier : Tier} {room : Nat} {left : Expr α} {t : Token} {rest : List Token} {op : Operator}
    {parsed : Except SyntaxError (Expr α × List Token)}
    {next : Expr α × List Token → Except SyntaxError (Expr α × List Token)}
    (isOperator : tier.operator? t = some op) (operand : motive.operand tier room rest parsed)
    (further : ∀ right rest, motive.chain tier room (left.binary op right) rest (next (right, rest))) :
    motive.chain tier (room + 1) left (t :: rest) (parsed >>= next)
  tighter {tier next : Tier} {room : Nat} {tokens : List Token} {parsed : Except SyntaxError (Expr α × List Token)}
    (isNext : tier.tighter? = some next) (chain : motive.chained next room tokens parsed) :
    motive.operand tier room tokens parsed
  tightest {tier : Tier} {room : Nat} {tokens : List Token} {parsed : Except SyntaxError (Expr α × List Token)}
    (tightest : tier.tighter? = none) (signed : motive.signed room tokens parsed) :
    motive.operand tier room tokens parsed
  -- signs
  signNil {room : Nat} {parsed : Except SyntaxError (Expr α × List Token)}
    (suffixed : motive.suffixed room [] parsed) : motive.signed room [] parsed
  signTooDeep {t : Token} (rest : List Token) (isSign : t.kind = .bang ∨ t.kind = .minus) :
    motive.signed 0 (t :: rest) (bounds.tooDeep rest)
  sign {room : Nat} {t : Token} {rest : List Token} {parsed : Except SyntaxError (Expr α × List Token)}
    (isSign : t.kind = .bang ∨ t.kind = .minus) (operand : motive.signed room rest parsed) :
    motive.signed (room + 1) (t :: rest)
      (parsed >>= fun out => .ok (.binary (.number Literal.zero) (.ofSymbol t.lexeme) out.1, out.2))
  unsigned {room : Nat} {t : Token} {rest : List Token} {parsed : Except SyntaxError (Expr α × List Token)}
    (noSign : ¬ (t.kind = .bang ∨ t.kind = .minus)) (suffixed : motive.suffixed room (t :: rest) parsed) :
    motive.signed room (t :: rest) parsed
  -- calls and positions
  suffixed {room : Nat} {tokens : List Token} {parsed : Except SyntaxError (Expr α × List Token)}
    {next : Expr α × List Token → Except SyntaxError (Expr α × List Token)}
    (first : motive.primary room tokens parsed)
    (further : ∀ e rest, motive.suffixes room e e.name? rest (next (e, rest))) :
    motive.suffixed room tokens (parsed >>= next)
  suffixNil (room : Nat) (e : Expr α) (name : Option String) : motive.suffixes room e name [] (.ok (e, []))
  suffixEnds {t : Token} (room : Nat) (e : Expr α) (name : Option String) (rest : List Token)
    (noCall : t.kind ≠ .leftParen) (noPosition : t.kind ≠ .leftBracket) :
    motive.suffixes room e name (t :: rest) (.ok (e, t :: rest))
  call {room : Nat} {function : String} {t : Token} {rest : List Token}
    {parsed : Except SyntaxError (List (Expr α) × List Token)}
    {next : List (Expr α) × List Token → Except SyntaxError (Expr α × List Token)} (e : Expr α)
    (opens : t.kind = .leftParen) (inside : motive.arguments room rest parsed)
    (further : ∀ arguments rest, motive.suffixes room (.call function arguments) none rest (next (arguments, rest))) :
    motive.suffixes room e (some function) (t :: rest) (parsed >>= next)
  notCallable {room : Nat} {t : Token} {rest : List Token}
    {parsed : Except SyntaxError (List (Expr α) × List Token)} (e : Expr α) (opens : t.kind = .leftParen)
    (inside : motive.arguments room rest parsed) :
    motive.suffixes room e none (t :: rest) (parsed >>= fun _ => .error ⟨.notCallable, t.line⟩)
  index {room : Nat} {series : String} {t : Token} {rest : List Token}
    {parsed : Except SyntaxError (Expr α × List Token)} (e : Expr α)
    (next : Expr α × List Token → Except SyntaxError (Expr α × List Token)) (noCall : t.kind ≠ .leftParen)
    (opens : t.kind = .leftBracket) (inside : motive.expression room rest parsed)
    (further : ∀ position rest, motive.suffixes room (.index series position) none rest (next (position, rest))) :
    motive.suffixes room e (some series) (t :: rest) (parsed >>= fun out =>
      bounds.expect .rightBracket .bracketAfterIndex out.2 >>= fun closing => next (out.1, closing.2))
  notIndexable {room : Nat} {t : Token} {rest : List Token}
    {parsed : Except SyntaxError (Expr α × List Token)} (e : Expr α) (noCall : t.kind ≠ .leftParen)
    (opens : t.kind = .leftBracket) (inside : motive.expression room rest parsed) :
    motive.suffixes room e none (t :: rest) (parsed >>= fun out =>
      bounds.expect .rightBracket .bracketAfterIndex out.2 >>= fun _ => .error ⟨.notIndexable, t.line⟩)
  noArguments {tokens : List Token} (room : Nat) (closes : (bounds.next tokens).kind = .rightParen) :
    motive.arguments room tokens (followed bounds .rightParen .parenAfterArguments (.ok ([], tokens)))
  arguments {room : Nat} {tokens : List Token} (opens : (bounds.next tokens).kind ≠ .rightParen)
    (each : ∀ tokens, motive.expression room tokens (Expr.expression bounds room tokens)) :
    motive.arguments room tokens
      (followed bounds .rightParen .parenAfterArguments (separated (Expr.expression bounds room) tokens))
  -- what stands alone
  primaryNil (room : Nat) : motive.primary room [] (bounds.fail (.unexpectedToken (bounds.next [])) [])
  leaf {t : Token} {e : Expr α} (room : Nat) (rest : List Token) (leaf : Leaf t e) :
    motive.primary room (t :: rest) (.ok (e, rest))
  unreadable {t : Token} (room : Nat) (rest : List Token) (isNumber : t.kind = .number)
    (unread : Literal.read? (α := α) t.lexeme = none) :
    motive.primary room (t :: rest) (.error ⟨.unreadableNumber t.lexeme, t.line⟩)
  parenthesised {room : Nat} {t : Token} {rest : List Token} {parsed : Except SyntaxError (Expr α × List Token)}
    (opens : t.kind = .leftParen) (inside : motive.expression room rest parsed) :
    motive.primary room (t :: rest) (followed bounds .rightParen .parenAfterExpression parsed)
  noStart {t : Token} (room : Nat) (rest : List Token) (noStart : NoStart t) :
    motive.primary room (t :: rest) (bounds.fail (.unexpectedToken t) (t :: rest))

/-- A motive holds of all that is parsed. -/
structure Holds (motive : Motive α) (bounds : Bounds) : Prop where
  expression : ∀ room tokens, motive.expression room tokens (Expr.expression bounds room tokens)
  chained : ∀ tier room tokens, motive.chained tier room tokens (Expr.chained bounds tier room tokens)
  chain : ∀ tier room left tokens, motive.chain tier room left tokens (Expr.chain bounds tier room left tokens)
  operand : ∀ tier room tokens, motive.operand tier room tokens (Expr.operand bounds tier room tokens)
  signed : ∀ room tokens, motive.signed room tokens (Expr.signed bounds room tokens)
  suffixed : ∀ room tokens, motive.suffixed room tokens (Expr.suffixed bounds room tokens)
  suffixes : ∀ room e name tokens, motive.suffixes room e name tokens (Expr.suffixes bounds room e name tokens)
  arguments : ∀ room tokens, motive.arguments room tokens (Expr.arguments bounds room tokens)
  primary : ∀ room tokens, motive.primary room tokens (Expr.primary bounds room tokens)

theorem of_productions {motive : Motive α} (productions : motive.Productions bounds) : motive.Holds bounds := by
  suffices all : (∀ room tokens, motive.expression room tokens (Expr.expression bounds room tokens)) ∧
      (∀ tier room tokens, motive.chained tier room tokens (Expr.chained bounds tier room tokens)) ∧
      (∀ tier room left tokens, motive.chain tier room left tokens (Expr.chain bounds tier room left tokens)) ∧
      (∀ tier room tokens, motive.operand tier room tokens (Expr.operand bounds tier room tokens)) ∧
      (∀ room tokens, motive.signed room tokens (Expr.signed bounds room tokens)) ∧
      (∀ room tokens, motive.suffixed room tokens (Expr.suffixed bounds room tokens)) ∧
      (∀ room e name tokens, motive.suffixes room e name tokens (Expr.suffixes bounds room e name tokens)) ∧
      (∀ room tokens, motive.arguments room tokens (Expr.arguments bounds room tokens)) ∧
      ∀ room tokens, motive.primary room tokens (Expr.primary bounds room tokens) by
    rcases all with ⟨expression, chained, chain, operand, signed, suffixed, suffixes, arguments, primary⟩
    exact ⟨expression, chained, chain, operand, signed, suffixed, suffixes, arguments, primary⟩
  apply Expr.expression.mutual_induct bounds
  -- whole expressions
  · intro tokens
    rw [Expr.expression]
    exact productions.noRoom tokens
  · intro tokens room ih
    rw [Expr.expression]
    exact productions.whole ih
  -- chains and their operands
  · intro tier room tokens ihFirst ihChain
    rw [Expr.chained]
    exact productions.chained ihFirst ihChain
  · intro tier room left
    rw [Expr.chain]
    exact productions.chainNil tier room left
  · intro tier room left t rest other
    rw [Expr.chain, other]
    exact productions.chainEnds room left rest other
  · intro tier left t rest op isOperator
    rw [Expr.chain, isOperator]
    exact productions.chainTooDeep left rest isOperator
  · intro tier left t rest op isOperator room ihOperand ihChain
    rw [Expr.chain, isOperator]
    exact productions.chainGoesOn isOperator ihOperand ihChain
  · intro tier room tokens next isNext ih
    rw [operand_of_next isNext]
    exact productions.tighter isNext ih
  · intro tier room tokens tightest ih
    rw [operand_of_tightest tightest]
    exact productions.tightest tightest ih
  -- signs
  · intro room ih
    rw [Expr.signed]
    exact productions.signNil ih
  · intro t rest isSign
    rw [signed_of_sign_zero isSign]
    exact productions.signTooDeep rest isSign
  · intro t rest isSign room ih
    rw [signed_of_sign isSign]
    exact productions.sign isSign ih
  · intro room t rest noSign ih
    rw [signed_of_noSign noSign]
    exact productions.unsigned noSign ih
  -- calls and positions
  · intro room tokens ihPrimary ihSuffixes
    rw [Expr.suffixed]
    exact productions.suffixed ihPrimary ihSuffixes
  · intro room e name
    rw [Expr.suffixes]
    exact productions.suffixNil room e name
  · intro room e name t rest opens ihArguments further
    rw [Expr.suffixes, if_pos opens]
    cases name with
    | none => exact productions.notCallable e opens ihArguments
    | some function => exact productions.call e opens ihArguments further
  · intro room e name t rest noCall opens ihPosition further
    rw [Expr.suffixes, if_neg noCall, if_pos opens]
    cases name with
    | none => exact productions.notIndexable e noCall opens ihPosition
    | some series =>
      let next := fun out : Expr α × List Token => Expr.suffixes bounds room (.index series out.1) none out.2
      exact productions.index e next noCall opens ihPosition further
  · intro room e name t rest noCall noPosition
    rw [Expr.suffixes, if_neg noCall, if_neg noPosition]
    exact productions.suffixEnds room e name rest noCall noPosition
  · intro room tokens closes
    rw [Expr.arguments, if_pos closes]
    exact productions.noArguments room closes
  · intro room tokens opens ih
    rw [Expr.arguments, if_neg opens]
    exact productions.arguments opens ih
  -- what stands alone
  · intro room
    rw [Expr.primary]
    exact productions.primaryNil room
  · intro room t rest kind
    rw [primary_of_leaf (.boolean kind)]
    exact productions.leaf room rest (.boolean kind)
  · intro room t rest kind value reads
    rw [primary_of_leaf (.number kind reads)]
    exact productions.leaf room rest (.number kind reads)
  · intro room t rest isNumber unread
    rw [primary_of_unreadable isNumber unread]
    exact productions.unreadable room rest isNumber unread
  · intro room t rest kind
    rw [primary_of_leaf (.text kind)]
    exact productions.leaf room rest (.text kind)
  · intro room t rest kind
    rw [primary_of_leaf (.name kind)]
    exact productions.leaf room rest (.name kind)
  · intro room t rest opens ih
    rw [Expr.primary, opens]
    exact productions.parenthesised opens ih
  · intro room t rest boolean number text name opening
    have noStart : NoStart t := ⟨boolean, number, text, name, opening⟩
    rw [primary_of_noStart noStart]
    exact productions.noStart room rest noStart

end Motive

end IndicatorScript.Expr
