import IndicatorScript.Proofs.Expr.Printing
import IndicatorScript.Proofs.Expr.Reparsing
import IndicatorScript.Proofs.Token.Reads

/-!
# The grammar of expressions

`Derives` says which tokens are an expression, and which one, without saying how they are read. Chains lean to the left,
a sign has a literal zero on its left, and arguments or a position may follow what derives a name, once.

What the parser reads is derived by the tokens that it has read (`Expr.expression_reads`), within any room.
-/

namespace IndicatorScript

/-- The parts that expressions are made of. -/
inductive Phrase where
  | chain (tier : Tier)
  | signed
  | suffixed
  | primary
  deriving DecidableEq, Repr

/-- What stands between the operators of a tier. -/
def Tier.operands : Tier → Phrase
  | .or => .chain .and
  | .and => .chain .equality
  | .equality => .chain .comparison
  | .comparison => .chain .additive
  | .additive => .chain .multiplicative
  | .multiplicative => .signed

/-- The tokens are these pieces, with a comma between any two of them. -/
inductive Separated : List (List Token) → List Token → Prop where
  | none : Separated [] []
  | one (piece : List Token) : Separated [piece] piece
  | more {piece next tokens : List Token} {pieces : List (List Token)} {comma : Token} (isComma : comma.kind = .comma)
      (further : Separated (next :: pieces) tokens) : Separated (piece :: next :: pieces) (piece ++ comma :: tokens)

theorem Separated.of_cons {piece inside : List Token} {pieces : List (List Token)}
    (separated : Separated (piece :: pieces) inside) : ∃ after, inside = piece ++ after := by
  cases separated with
  | one => exact ⟨[], (List.append_nil piece).symm⟩
  | more isComma further => exact ⟨_, rfl⟩

theorem Spelled.piece {pieces : List (List Token)} {piece tokens : List Token} (spelled : Spelled tokens)
    (separated : Separated pieces tokens) (mem : piece ∈ pieces) : Spelled piece := by
  induction separated with
  | none => cases mem
  | one => exact List.mem_singleton.mp mem ▸ spelled
  | more isComma further ih =>
    rcases List.mem_cons.mp mem with rfl | mem
    · exact spelled.first
    · exact ih (spelled.rest.tail) mem

/-- The operators that can stand in front of their only operand. -/
def Operator.IsSign (op : Operator) : Prop := op = .test .not ∨ op = .arithmetic .subtract

variable {α : Type} [Literal α]

inductive Derives : Phrase → List Token → Expr α → Prop where
  | boolean {t : Token} (kind : t.kind = .boolean) : Derives .primary [t] (.boolean (t.lexeme = "true"))
  | number {t : Token} {x : α} (kind : t.kind = .number) (reads : Literal.read? t.lexeme = some x) :
      Derives .primary [t] (.number x)
  | text {t : Token} (kind : t.kind = .string) : Derives .primary [t] (.text t.content)
  | name {t : Token} (kind : t.kind = .identifier) : Derives .primary [t] (.name t.lexeme)
  | parenthesised {opening closing : Token} {inside : List Token} {e : Expr α} (opens : opening.kind = .leftParen)
      (whole : Derives (.chain .or) inside e) (closes : closing.kind = .rightParen) :
      Derives .primary (opening :: (inside ++ [closing])) e
  | bare {tokens : List Token} {e : Expr α} (primary : Derives .primary tokens e) : Derives .suffixed tokens e
  | call {callee inside : List Token} {function : String} {opening closing : Token}
      {arguments : List (List Token × Expr α)} (named : Derives .primary callee (.name function))
      (opens : opening.kind = .leftParen) (each : ∀ argument ∈ arguments, Derives (.chain .or) argument.1 argument.2)
      (separated : Separated (arguments.map Prod.fst) inside) (closes : closing.kind = .rightParen) :
      Derives .suffixed (callee ++ opening :: (inside ++ [closing])) (.call function (arguments.map Prod.snd))
  | index {indexed inside : List Token} {series : String} {opening closing : Token} {position : Expr α}
      (named : Derives .primary indexed (.name series)) (opens : opening.kind = .leftBracket)
      (whole : Derives (.chain .or) inside position) (closes : closing.kind = .rightBracket) :
      Derives .suffixed (indexed ++ opening :: (inside ++ [closing])) (.index series position)
  | unsigned {tokens : List Token} {e : Expr α} (suffixed : Derives .suffixed tokens e) : Derives .signed tokens e
  | sign {t : Token} {tokens : List Token} {op : Operator} {e : Expr α} (isSign : op.IsSign)
      (isOperator : t.kind = op.word.kind) (operand : Derives .signed tokens e) :
      Derives .signed (t :: tokens) (.binary (.number Literal.zero) op e)
  | operand {tier : Tier} {tokens : List Token} {e : Expr α} (operand : Derives tier.operands tokens e) :
      Derives (.chain tier) tokens e
  | chain {tier : Tier} {first second : List Token} {t : Token} {op : Operator} {left right : Expr α}
      (operands : Derives (.chain tier) first left) (isTier : op.tier? = some tier)
      (isOperator : t.kind = op.word.kind) (operand : Derives tier.operands second right) :
      Derives (.chain tier) (first ++ t :: second) (.binary left op right)

/-- The tokens between the parentheses of a call, and its arguments. -/
def DerivesArguments (inside : List Token) (arguments : List (Expr α)) : Prop :=
  ∃ pieces : List (List Token × Expr α), pieces.map Prod.snd = arguments ∧ Separated (pieces.map Prod.fst) inside ∧
    ∀ piece ∈ pieces, Derives (.chain .or) piece.1 piece.2

/-! ## Operators by their spelling -/

theorem eq_ofList_of_toList {s : String} {chars : List Char} (same : s.toList = chars) : s = String.ofList chars := by
  rw [← same, String.ofList_toList]

theorem Tier.kind_of_operator? {tier : Tier} {t : Token} {op : Operator} (spelled : t.word.Spelled)
    (isOperator : tier.operator? t = some op) : op.tier? = some tier ∧ t.kind = op.word.kind := by
  rcases t with ⟨kind, lexeme, line⟩
  unfold operator? at isOperator
  split at isOperator
  · next isTier =>
    cases kind <;> cases isTier
    case or | and =>
      cases isOperator
      exact ⟨rfl, rfl⟩
    all_goals
      rcases eq_ofList_of_toList spelled with rfl
      cases isOperator
      exact ⟨rfl, rfl⟩
  · cases isOperator

theorem Operator.kind_of_sign {t : Token} (spelled : t.word.Spelled) (isSign : t.kind = .bang ∨ t.kind = .minus) :
    (Operator.ofSymbol t.lexeme).IsSign ∧ t.kind = (Operator.ofSymbol t.lexeme).word.kind := by
  rcases t with ⟨kind, lexeme, line⟩
  rcases isSign with rfl | rfl
  · rcases eq_ofList_of_toList spelled with rfl
    exact ⟨.inl rfl, rfl⟩
  · rcases eq_ofList_of_toList spelled with rfl
    exact ⟨.inr rfl, rfl⟩

theorem Tier.operands_of_next {tier next : Tier} (isNext : tier.tighter? = some next) :
    tier.operands = .chain next := by
  cases tier <;> cases isNext <;> rfl

theorem Tier.operands_of_tightest {tier : Tier} (tightest : tier.tighter? = none) : tier.operands = .signed := by
  cases tier <;> first | rfl | cases tightest

/-! ## What the parser reads -/

theorem DerivesArguments.none : DerivesArguments (α := α) [] [] :=
  ⟨[], rfl, .none, fun _ mem => absurd mem List.not_mem_nil⟩

theorem DerivesArguments.one {inside : List Token} {e : Expr α} (derives : Derives (.chain .or) inside e) :
    DerivesArguments inside [e] := by
  refine ⟨[(inside, e)], rfl, .one inside, fun piece mem => ?_⟩
  rcases List.mem_singleton.mp mem with rfl
  exact derives

theorem DerivesArguments.more {first inside : List Token} {comma : Token} {e next : Expr α} {others : List (Expr α)}
    (derives : Derives (.chain .or) first e) (isComma : comma.kind = .comma)
    (further : DerivesArguments inside (next :: others)) :
    DerivesArguments (first ++ comma :: inside) (e :: next :: others) := by
  rcases further with ⟨pieces, same, separated, each⟩
  rcases List.map_eq_cons_iff.mp same with ⟨piece, pieces, rfl, rfl, rfl⟩
  refine ⟨(first, e) :: piece :: pieces, rfl, .more isComma separated, fun other mem => ?_⟩
  rcases List.mem_cons.mp mem with rfl | mem
  · exact derives
  · exact each other mem

theorem separated_reads {item : Parser (Expr α)}
    (each : ∀ tokens, Reads (Derives (.chain .or)) tokens (item tokens)) (tokens : List Token) :
    Reads (fun used arguments => arguments ≠ [] ∧ DerivesArguments used arguments) tokens (separated item tokens) := by
  induction tokens using separated.induct with
  | _ tokens ih =>
    rw [separated]
    refine (each tokens).bind fun e used rest derives => ?_
    have alone : [e] ≠ [] ∧ DerivesArguments (used ++ []) [e] := by
      rw [List.append_nil]
      exact ⟨List.cons_ne_nil e [], .one derives⟩
    cases rest with
    | nil => exact .ok alone
    | cons t after =>
      dsimp only
      split
      · next comma =>
        refine .cons ((ih t after comma).bind fun arguments inside rest further => .ok ?_)
        rcases further with ⟨nonempty, further⟩
        rcases List.exists_cons_of_ne_nil nonempty with ⟨next, others, rfl⟩
        rw [List.append_nil]
        exact ⟨List.cons_ne_nil _ _, .more derives comma.1 further⟩
      · exact .ok alone

/-- The tokens of arguments and the parenthesis behind them. -/
def DerivesClosed (used : List Token) (arguments : List (Expr α)) : Prop :=
  ∃ inside closing, used = inside ++ [closing] ∧ closing.kind = .rightParen ∧ DerivesArguments inside arguments

namespace Expr

variable {bounds : Bounds}

theorem closed_reads {tokens : List Token} {parsed : Except SyntaxError (List (Expr α) × List Token)}
    (reads : Reads DerivesArguments tokens parsed) :
    Reads DerivesClosed tokens (followed bounds .rightParen .parenAfterArguments parsed) := by
  refine reads.bind fun arguments inside rest derives => ?_
  refine (Reads.expect bounds _ _ _).bind fun closing last rest closes => .ok ?_
  rcases closes with ⟨rfl, closes⟩
  rw [List.append_nil]
  exact ⟨inside, closing, rfl, closes, derives⟩

theorem Leaf.derives {t : Token} {e : Expr α} (leaf : Leaf t e) : Derives .primary [t] e := by
  cases leaf with
  | boolean kind => exact .boolean kind
  | number kind reads => exact .number kind reads
  | text kind => exact .text kind
  | name kind => exact .name kind

/-- What each parser has read derives what it gives, together with what has been read before it. -/
abbrev derivation (α : Type) [Literal α] : Motive α where
  expression _ := Reads (Derives (.chain .or))
  chained tier _ := Reads (Derives (.chain tier))
  chain tier _ left tokens parsed := ∀ before, Derives (.chain tier) before left →
    Reads (fun used => Derives (.chain tier) (before ++ used)) tokens parsed
  operand tier _ := Reads (Derives tier.operands)
  signed _ := Reads (Derives .signed)
  suffixed _ := Reads (Derives .suffixed)
  suffixes _ e name tokens parsed := ∀ before, Derives .suffixed before e →
    (∀ called, name = some called → Derives (α := α) .primary before (.name called)) →
    Reads (fun used => Derives .suffixed (before ++ used)) tokens parsed
  arguments _ := Reads DerivesClosed
  primary _ := Reads (Derives .primary)

theorem derivation_productions : (derivation α).Productions bounds := by
  constructor
  all_goals dsimp only
  case noRoom => exact fun _ => .error _
  case whole => exact id
  case chained =>
    intro _ _ _ _ _ first further
    exact first.bind fun left used rest derives => further left rest used (.operand derives)
  case chainNil =>
    intro _ _ _ before derives
    refine .ok ?_
    rwa [List.append_nil]
  case chainEnds =>
    intro _ _ _ _ _ _ before derives
    refine .ok ?_
    rwa [List.append_nil]
  case chainTooDeep => exact fun _ _ _ _ _ => .error _
  case chainGoesOn =>
    intro tier _ left t rest op _ _ isOperator operand further before derives
    refine .ofHead fun spelled => .cons ?_
    rcases Tier.kind_of_operator? spelled isOperator with ⟨isTier, kind⟩
    refine operand.bind fun right used rest operand => ?_
    have further := further right rest (before ++ t :: used) (.chain derives isTier kind operand)
    simpa only [List.append_assoc, List.cons_append] using further
  case tighter =>
    intro _ _ _ _ _ isNext chain
    rw [Tier.operands_of_next isNext]
    exact chain
  case tightest =>
    intro _ _ _ _ tightest signed
    rw [Tier.operands_of_tightest tightest]
    exact signed
  case signNil => exact fun suffixed => suffixed.mono fun _ _ => .unsigned
  case signTooDeep => exact fun _ _ => .error _
  case sign =>
    intro _ _ _ _ isSign operand
    refine .ofHead fun spelled => .cons ?_
    rcases Operator.kind_of_sign spelled isSign with ⟨isSign, kind⟩
    refine operand.bind fun right used rest derives => .ok ?_
    rw [List.append_nil]
    exact .sign isSign kind derives
  case unsigned => exact fun _ suffixed => suffixed.mono fun _ _ => .unsigned
  case suffixed =>
    intro _ _ _ _ first further
    refine first.bind fun e used rest derives => further e rest used (.bare derives) fun called same => ?_
    cases e <;> cases same
    exact derives
  case suffixNil =>
    intro _ _ _ before derives _
    refine .ok ?_
    rwa [List.append_nil]
  case suffixEnds =>
    intro _ _ _ _ _ _ _ before derives _
    refine .ok ?_
    rwa [List.append_nil]
  case call =>
    intro _ function t _ _ _ _ opens inside further before _ named
    refine .cons (inside.bind fun arguments used rest closed => ?_)
    rcases closed with ⟨inside, closing, rfl, closes, pieces, rfl, separated, each⟩
    have call : Derives .suffixed (before ++ t :: (inside ++ [closing])) (.call function (pieces.map Prod.snd)) :=
      .call (named function rfl) opens each separated closes
    have alone := further (pieces.map Prod.snd) rest _ call fun called same => by cases same
    simpa only [List.append_assoc, List.cons_append] using alone
  case notCallable => exact fun _ _ inside _ _ _ => .cons (inside.bind fun _ _ _ _ => .error _)
  case index =>
    intro _ series t _ _ _ _ _ opens inside further before _ named
    refine .cons (inside.bind fun position inside rest whole => ?_)
    refine (Reads.expect bounds _ _ _).bind fun closing last rest closes => ?_
    rcases closes with ⟨rfl, closes⟩
    have index : Derives .suffixed (before ++ t :: (inside ++ [closing])) (.index series position) :=
      .index (named series rfl) opens whole closes
    have alone := further position rest _ index fun called same => by cases same
    simpa only [List.append_assoc, List.cons_append] using alone
  case notIndexable =>
    intro _ _ _ _ _ _ _ inside _ _ _
    exact .cons (inside.bind fun _ _ _ _ => (Reads.expect bounds _ _ _).bind fun _ _ _ _ => .error _)
  case noArguments => exact fun _ _ => closed_reads (.ok .none)
  case arguments => exact fun _ each => closed_reads ((separated_reads each _).mono fun _ _ => And.right)
  case primaryNil => exact fun _ => .error _
  case leaf => exact fun _ _ leaf => .cons (.ok leaf.derives)
  case unreadable => exact fun _ _ _ _ => .error _
  case parenthesised =>
    intro _ _ _ _ opens inside
    refine .cons (inside.bind fun e used rest derives => ?_)
    refine (Reads.expect bounds _ _ _).bind fun closing last rest closes => .ok ?_
    rcases closes with ⟨rfl, closes⟩
    rw [List.append_nil]
    exact .parenthesised opens derives closes
  case noStart => exact fun _ _ _ => .error _

theorem expression_reads (bounds : Bounds) (room : Nat) (tokens : List Token) :
    Reads (Derives (.chain .or)) tokens (expression (α := α) bounds room tokens) :=
  (Motive.of_productions derivation_productions).expression room tokens

end Expr

end IndicatorScript
