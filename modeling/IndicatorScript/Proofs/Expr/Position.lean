import IndicatorScript.Proofs.Expr.Reports
import IndicatorScript.Proofs.Token.Position

/-!
# Reading expressions by position

The same expressions, read by walks whose loops and recursion nothing bounds but fuel. Each of them does as the parser
of its form does (`mirroring_holds`), so there is fuel enough for each to end.
-/

namespace IndicatorScript

def Token.ofKind? (kind : Token.Kind) (t : Token) : Option Token := if t.kind = kind then some t else none

theorem Token.ofKind?_of_eq {kind : Token.Kind} {t : Token} (same : t.kind = kind) : t.ofKind? kind = some t :=
  if_pos same

theorem Token.ofKind?_of_ne {kind : Token.Kind} {t : Token} (other : t.kind ≠ kind) : t.ofKind? kind = none :=
  if_neg other

def Token.sign? (t : Token) : Option Token := if t.kind = .bang ∨ t.kind = .minus then some t else none

theorem Token.ofKind?_of_end {kind : Token.Kind} {t : Token} (isEnd : t.kind = .endOfScript)
    (goesOn : kind ≠ .endOfScript) : t.ofKind? kind = none :=
  ofKind?_of_ne fun same => goesOn (same.symm.trans isEnd)

theorem Tier.operator?_of_end {t : Token} (isEnd : t.kind = .endOfScript) (tier : Tier) : tier.operator? t = none := by
  unfold operator?
  rw [isEnd]
  exact if_neg fun same => Option.some_ne_none tier same.symm

namespace Walk

variable {α : Type} [Literal α] (limit : Limit) (tokens : List Token)

/-- What calls with these arguments are, of all that might be called. -/
def called (e : Expr α) (opening : Token) (arguments : List (Expr α)) : Walk (Expr α) :=
  match e.name? with
  | some function => return .call function arguments
  | none => throw ⟨.notCallable, opening.line⟩

mutual

def expression : Nat → Walk (Expr α)
  | 0 => spent
  | fuel + 1 => do
      enter limit tokens
      let e ← chained fuel .or
      leave 1
      return e

/-- A chain gives back at its end all the levels that its operators have taken. -/
def chained : Nat → Tier → Walk (Expr α)
  | 0, _ => spent
  | fuel + 1, tier => do
      let first ← operand fuel tier
      let (e, levels) ← chain fuel tier first 0
      leave levels
      return e

def operand : Nat → Tier → Walk (Expr α)
  | 0, _ => spent
  | fuel + 1, tier => do
      noteOperand
      match tier.tighter? with
      | some next => chained fuel next
      | none => signed fuel

def chain : Nat → Tier → Expr α → Nat → Walk (Expr α × Nat)
  | 0, _, _, _ => spent
  | fuel + 1, tier, left, levels => do
      match ← accept? tokens tier.operator? with
      | some op =>
          enter limit tokens
          let right ← operand fuel tier
          chain fuel tier (.binary left op right) (levels + 1)
      | none => return (left, levels)

def signed : Nat → Walk (Expr α)
  | 0 => spent
  | fuel + 1 => do
      match ← accept? tokens Token.sign? with
      | some sign =>
          enter limit tokens
          let right ← signedOperand fuel
          leave 1
          return .binary (.number Literal.zero) (.ofSymbol sign.lexeme) right
      | none => suffixed fuel

def signedOperand : Nat → Walk (Expr α)
  | 0 => spent
  | fuel + 1 => do
      noteOperand
      signed fuel

def suffixed : Nat → Walk (Expr α)
  | 0 => spent
  | fuel + 1 => do
      let e ← primary fuel
      suffixes fuel e

def suffixes : Nat → Expr α → Walk (Expr α)
  | 0, _ => spent
  | fuel + 1, e => do
      match ← accept? tokens (Token.ofKind? .leftParen) with
      | some opening =>
          let arguments ← arguments fuel
          let e ← called e opening arguments
          suffixes fuel e
      | none =>
          match ← accept? tokens (Token.ofKind? .leftBracket) with
          | some opening =>
              let position ← expression fuel
              let _ ← expect tokens .rightBracket .bracketAfterIndex
              match e.name? with
              | some series => suffixes fuel (.index series position)
              | none => throw ⟨.notIndexable, opening.line⟩
          | none => return e

def arguments : Nat → Walk (List (Expr α))
  | 0 => spent
  | fuel + 1 => do
      let t ← peek tokens
      let arguments ← if t.kind = .rightParen then pure [] else separated fuel []
      let _ ← expect tokens .rightParen .parenAfterArguments
      return arguments

/-- One more argument, and another one after each comma. -/
def separated : Nat → List (Expr α) → Walk (List (Expr α))
  | 0, _ => spent
  | fuel + 1, before => do
      let argument ← expression fuel
      match ← accept? tokens (Token.ofKind? .comma) with
      | some _ => separated fuel (before ++ [argument])
      | none => return before ++ [argument]

def primary : Nat → Walk (Expr α)
  | 0 => spent
  | fuel + 1 => do
      let t ← peek tokens
      match t.kind with
      | .boolean => do
          let _ ← advance tokens
          return .boolean (t.lexeme = "true")
      | .number => do
          let _ ← advance tokens
          match Literal.read? t.lexeme with
          | some value => return .number value
          | none => throw ⟨.unreadableNumber t.lexeme, t.line⟩
      | .string => do
          let _ ← advance tokens
          return .text t.content
      | .identifier => do
          let _ ← advance tokens
          return .name t.lexeme
      | .leftParen => do
          let _ ← advance tokens
          let e ← expression fuel
          let _ ← expect tokens .rightParen .parenAfterExpression
          return e
      | _ => throw ⟨.unexpectedToken t, t.line⟩

end

def call (fuel : Nat) (e : Expr α) (opening : Token) : Walk (Expr α) := do
  let arguments ← arguments limit tokens fuel
  called e opening arguments

/-! ## Chains -/

section Chains

variable {limit tokens} {ahead rest : List Token} {last t : Token} {cursor after : Cursor} {levels room : Nat}

/-- From this cursor, a chain ends with what the parser gives, and has counted the levels that it is further in. -/
def Climbs (limit : Limit) (ahead : List Token) (cursor : Cursor) (levels : Nat) (walk : Nat → Walk (Expr α × Nat)) :
    Except SyntaxError (Expr α × List Token) → Prop
  | .ok (e, rest) => ∃ after more, Ends walk cursor (.ok (e, levels + more), after) ∧ after.At ahead rest ∧
      after.depth = cursor.depth + more ∧ cursor.Passes limit True after
  | .error e => Fails limit ahead True cursor walk e

/-- From every cursor before these tokens, with this room left, the chain does as the parser. -/
def MirrorsChain (limit : Limit) (ahead : List Token) (room : Nat) (rest : List Token)
    (walk : Nat → Nat → Walk (Expr α × Nat)) (result : Except SyntaxError (Expr α × List Token)) : Prop :=
  ∀ (cursor : Cursor) levels, cursor.At ahead rest → Affords limit cursor.depth room rest.length →
    Climbs limit ahead cursor levels (fun fuel => walk fuel levels) result

omit [Literal α] in
theorem Climbs.of_ends {more : Nat} {walk walk' : Nat → Walk (Expr α × Nat)}
    {result : Except SyntaxError (Expr α × List Token)}
    (same : ∀ {ending}, Ends walk' after ending → Ends walk cursor ending) (depth : after.depth = cursor.depth + more)
    (passes : cursor.Passes limit True after) (climbs : Climbs limit ahead after (levels + more) walk' result) :
    Climbs limit ahead cursor levels walk result := by
  cases result with
  | ok out =>
    rcases climbs with ⟨last, further, ends, atLast, depth', passes'⟩
    refine ⟨last, more + further, ?_, atLast, ?_, passes.trans passes'⟩
    · rw [← Nat.add_assoc]
      exact same ends
    · rw [depth', depth, Nat.add_assoc]
  | error e =>
    rcases climbs with ⟨e', last, ends, report, within, passes'⟩
    exact ⟨e', last, same ends, report, within, passes.trans passes'⟩

omit [Literal α] in
theorem Climbs.succ {walk : Nat → Walk (Expr α × Nat)} {result : Except SyntaxError (Expr α × List Token)}
    (climbs : Climbs limit ahead cursor levels (fun fuel => walk (fuel + 1)) result) :
    Climbs limit ahead cursor levels walk result :=
  .of_ends Ends.succ (Nat.add_zero cursor.depth).symm .refl climbs

variable (marked : Marked tokens ahead last) {tier : Tier} {left : Expr α}
include marked

theorem chain_ends (other : tier.operator? (rest.headD last) = none) :
    MirrorsChain limit ahead room rest (fun fuel => chain limit tokens fuel tier left) (.ok (left, rest)) := by
  intro cursor levels at' _
  refine ⟨cursor, 0, .succ ?_, at', rfl, .refl⟩
  simp only [chain]
  exact Ends.bind (.of_outcome (accept?_of_none marked at' other)) (.of_outcome rfl)

theorem chain_tooDeep {op : Operator} (isOperator : tier.operator? t = some op) :
    MirrorsChain limit ahead 0 (t :: rest) (fun fuel => chain limit tokens fuel tier left)
      (Bounds.tooDeep ⟨limit, last.line⟩ rest) := by
  intro cursor levels at' affords
  have deep : Mirrors limit ahead (fun _ => True) 1 0 rest
      (fun fuel => enter limit tokens >>= fun _ => operand limit tokens fuel tier >>= fun right =>
        chain limit tokens fuel tier (.binary left op right) (levels + 1))
      (Bounds.tooDeep ⟨limit, last.line⟩ rest) := .tooDeep marked
  refine .succ ?_
  simp only [chain]
  exact Fails.after_step (.of_outcome (accept?_of_some marked at' isOperator)) .moved
    (deep cursor.moved at'.moved affords)

theorem chain_goesOn {op : Operator} (isOperator : tier.operator? t = some op)
    {result : Except SyntaxError (Expr α × List Token)} {parse : Expr α × List Token → _}
    (first : Mirrors limit ahead (limit.allows · = true) 0 room rest (fun fuel => operand limit tokens fuel tier)
      result)
    (further : ∀ right rest, MirrorsChain limit ahead room rest
      (fun fuel => chain limit tokens fuel tier (.binary left op right)) (parse (right, rest))) :
    MirrorsChain limit ahead (room + 1) (t :: rest) (fun fuel => chain limit tokens fuel tier left)
      (result >>= parse) := by
  intro cursor levels at' affords
  have allowed : limit.allows (cursor.depth + 1) = true := Affords.allows affords
  have moves : cursor.Passes limit True cursor.moved.deeper := .trans .moved .deeper
  have accepts := Ends.of_outcome (accept?_of_some marked at' isOperator)
  have enters : Ends (fun _ => enter limit tokens) cursor.moved (.ok (), cursor.moved.deeper) :=
    .of_outcome (enter_of_allowed allowed)
  have affords : Affords limit (cursor.depth + 1) room rest.length := Affords.deeper affords
  have follows := first cursor.moved.deeper at'.moved.deeper affords
  refine .succ ?_
  simp only [chain]
  cases result with
  | error e =>
    refine Fails.after_step accepts .moved ?_
    exact Fails.after_step enters .deeper (Fails.bind (Fails.mono follows fun _ => allowed))
  | ok out =>
    rcases out with ⟨right, rest'⟩
    rcases follows with ⟨middle, ends, atMiddle, depth, passes⟩
    have depth : middle.depth = cursor.depth + 1 := depth
    have shorter := at'.moved.deeper.length_le atMiddle passes.forward
    have climbs := further right rest' middle (levels + 1) atMiddle (by
      rw [depth]
      exact affords.mono shorter)
    exact .of_ends (fun further => accepts.bind (enters.bind (ends.bind further))) depth
      (moves.trans (passes.mono fun _ => allowed)) climbs

omit marked in
/-- The levels of a chain are given back at its end. -/
theorem chained_mirrors {result : Except SyntaxError (Expr α × List Token)} {parse : Expr α × List Token → _}
    (first : Mirrors limit ahead (limit.allows · = true) 0 room rest (fun fuel => operand limit tokens fuel tier)
      result)
    (further : ∀ left rest, MirrorsChain limit ahead room rest (fun fuel => chain limit tokens fuel tier left)
      (parse (left, rest))) :
    Mirrors limit ahead (limit.allows · = true) 0 room rest (fun fuel => chained limit tokens fuel tier)
      (result >>= parse) := by
  refine .succ ?_
  simp only [chained]
  refine first.bind fun left rest cursor at' affords => ?_
  have climbs := further left rest cursor 0 at' affords
  cases parsed : parse (left, rest) with
  | error e =>
    rw [parsed] at climbs
    exact Fails.bind (Fails.mono climbs fun _ => trivial)
  | ok out =>
    rw [parsed] at climbs
    rcases climbs with ⟨after, more, ends, atAfter, depth, passes⟩
    have back : after.depth - (0 + more) = cursor.depth := by omega
    have leaves : (leave (0 + more)).outcome after =
        some (.ok (), { after with depth := after.depth - (0 + more) }) := rfl
    refine ⟨{ after with depth := after.depth - (0 + more) }, ?_, ⟨atAfter.within, atAfter.rest⟩, back,
      passes.forward, (passes.mono fun _ => trivial).noted⟩
    exact ends.bind (Ends.bind (.of_outcome leaves) (.of_outcome rfl))

end Chains

/-! ## Arguments -/

section Arguments

variable {limit tokens} {ahead : List Token} {last : Token} {room : Nat}

theorem separated_mirrors (marked : Marked tokens ahead last)
    (each : ∀ rest, Mirrors limit ahead (fun _ => True) 1 room rest (expression (α := α) limit tokens)
      (Expr.expression ⟨limit, last.line⟩ room rest)) (rest : List Token) (before : List (Expr α)) :
    Mirrors limit ahead (fun _ => True) 1 room rest (fun fuel => separated limit tokens fuel before)
      ((IndicatorScript.separated (fun rest => Expr.expression ⟨limit, last.line⟩ room rest) rest).map
        fun out => (before ++ out.1, out.2)) := by
  induction rest using IndicatorScript.separated.induct generalizing before with
  | _ rest ih =>
    refine .succ ?_
    simp only [separated]
    rw [IndicatorScript.separated]
    refine (each rest).bindMapped fun argument left read => ?_
    have shorter : left <:+ rest := (Expr.expression_reports ⟨limit, last.line⟩ room rest).gives _ read
    cases left with
    | nil =>
      refine .pass marked (Token.ofKind?_of_ne ?_) (.ok _)
      rw [List.headD_nil, marked.isEnd]
      decide
    | cons t after =>
      have fewer : after.length < rest.length := shorter.length_le
      dsimp only
      by_cases comma : t.kind = .comma
      · rw [if_pos ⟨comma, fewer⟩]
        refine .accept marked (Token.ofKind?_of_eq comma) ?_
        have further := (ih t after ⟨comma, fewer⟩ (before ++ [argument])).relaxed
        dsimp only
        cases parsed : IndicatorScript.separated (fun rest => Expr.expression (α := α) ⟨limit, last.line⟩ room rest)
          after with
        | error e =>
          rw [parsed] at further
          exact further
        | ok out =>
          rw [parsed] at further
          simp only [Except.map, List.append_assoc, List.singleton_append] at further
          exact further
      · rw [if_neg fun both => comma both.1]
        exact .pass marked (Token.ofKind?_of_ne comma) (.ok _)

end Arguments

/-! ## Expressions -/

section Mirroring

variable {limit tokens} {ahead : List Token} {last : Token}

theorem primary_leaf (marked : Marked tokens ahead last) (room : Nat) {t : Token} {e : Expr α} (rest : List Token)
    (leaf : Expr.Leaf t e) :
    Mirrors limit ahead (limit.allows · = true) 0 room (t :: rest) (primary (α := α) limit tokens)
      (.ok (e, rest)) := by
  refine .succ ?_
  simp only [primary]
  refine .peek marked ?_
  rw [List.headD_cons]
  cases leaf with
  | boolean kind =>
    rw [kind]
    exact .advance marked (.ok _)
  | number kind reads =>
    rw [kind]
    refine .advance marked ?_
    rw [reads]
    exact .ok _
  | text kind =>
    rw [kind]
    exact .advance marked (.ok _)
  | name kind =>
    rw [kind]
    exact .advance marked (.ok _)

/-- Each walk does as the parser of its form, and only those outside of a whole expression rely on the level that they
begin at. -/
abbrev mirroring (α : Type) [Literal α] (limit : Limit) (tokens ahead : List Token) : Expr.Motive α where
  expression room rest := Mirrors limit ahead (fun _ => True) 1 room rest (expression limit tokens)
  chained tier room rest :=
    Mirrors limit ahead (limit.allows · = true) 0 room rest fun fuel => chained limit tokens fuel tier
  chain tier room left rest := MirrorsChain limit ahead room rest fun fuel => chain limit tokens fuel tier left
  operand tier room rest :=
    Mirrors limit ahead (limit.allows · = true) 0 room rest fun fuel => operand limit tokens fuel tier
  signed room rest := Mirrors limit ahead (limit.allows · = true) 0 room rest (signed limit tokens)
  suffixed room rest := Mirrors limit ahead (limit.allows · = true) 0 room rest (suffixed limit tokens)
  suffixes room e name rest parsed := name = e.name? →
    Mirrors limit ahead (limit.allows · = true) 0 room rest (fun fuel => suffixes limit tokens fuel e) parsed
  arguments room rest := Mirrors limit ahead (limit.allows · = true) 1 room rest (arguments limit tokens)
  primary room rest := Mirrors limit ahead (limit.allows · = true) 0 room rest (primary limit tokens)

theorem mirroring_productions (marked : Marked tokens ahead last) :
    (mirroring α limit tokens ahead).Productions ⟨limit, last.line⟩ := by
  have isLast : last.kind = .endOfScript := marked.isEnd
  have shows := SyntaxError.Cause.text_unexpectedToken
  constructor
  all_goals dsimp only
  case noRoom =>
    intro rest
    refine .succ ?_
    simp only [expression]
    exact .tooDeep marked
  case whole =>
    intro room rest parsed inside
    rw [← bind_pure parsed]
    refine .succ ?_
    simp only [expression]
    exact .within inside fun e rest => .ok e
  case chained => exact chained_mirrors
  case chainNil => exact fun tier _ _ => chain_ends marked (Tier.operator?_of_end isLast tier)
  case chainEnds => exact fun _ _ _ other => chain_ends marked other
  case chainTooDeep => exact fun _ _ isOperator => chain_tooDeep marked isOperator
  case chainGoesOn => exact fun isOperator operand further => chain_goesOn marked isOperator operand further
  case tighter =>
    intro tier next room rest parsed isNext chain
    refine .succ ?_
    simp only [operand, isNext]
    refine .noteOperand ?_
    exact chain
  case tightest =>
    intro tier room rest parsed tightest signed
    refine .succ ?_
    simp only [operand, tightest]
    refine .noteOperand ?_
    exact signed
  case signNil =>
    intro room parsed suffixed
    refine .succ ?_
    simp only [signed]
    refine .pass marked (if_neg ?_) suffixed
    rw [List.headD_nil, isLast]
    decide
  case signTooDeep =>
    intro t rest isSign
    refine .succ ?_
    simp only [signed]
    exact .accept marked (if_pos isSign) (.tooDeep marked)
  case sign =>
    intro room t rest parsed isSign operand
    refine .succ ?_
    simp only [signed]
    refine .accept marked (if_pos isSign) (.within ?_ fun right rest => .ok _)
    refine .succ ?_
    simp only [signedOperand]
    exact .noteOperand operand
  case unsigned =>
    intro room t rest parsed noSign suffixed
    refine .succ ?_
    simp only [signed]
    exact .pass marked (if_neg noSign) suffixed
  case suffixed =>
    intro room rest parsed next first further
    refine .succ ?_
    simp only [suffixed]
    exact first.bind fun e rest => further e rest rfl
  case suffixNil =>
    intro room e name same
    refine .succ ?_
    simp only [suffixes]
    have noCall : ([].headD last).ofKind? .leftParen = none := Token.ofKind?_of_end isLast (by decide)
    have noPosition : ([].headD last).ofKind? .leftBracket = none := Token.ofKind?_of_end isLast (by decide)
    exact .pass marked noCall (.pass marked noPosition (.ok e))
  case suffixEnds =>
    intro t room e name rest noCall noPosition same
    refine .succ ?_
    simp only [suffixes]
    exact .pass marked (Token.ofKind?_of_ne noCall) (.pass marked (Token.ofKind?_of_ne noPosition) (.ok e))
  case call =>
    intro room function t rest parsed next e opens inside further same
    refine .succ ?_
    simp only [suffixes]
    refine .accept marked (Token.ofKind?_of_eq opens) (inside.bind fun arguments rest => ?_)
    rw [called, ← same]
    exact (further arguments rest rfl).relaxed
  case notCallable =>
    intro room t rest parsed e opens inside same
    refine .succ ?_
    simp only [suffixes]
    refine .accept marked (Token.ofKind?_of_eq opens) (inside.bind fun arguments rest => ?_)
    rw [called, ← same]
    exact .error ⟨rfl, rfl⟩
  case index =>
    intro room series t rest parsed e next noCall opens inside further same
    refine .succ ?_
    simp only [suffixes]
    refine .pass marked (Token.ofKind?_of_ne noCall) (.accept marked (Token.ofKind?_of_eq opens) ?_)
    refine inside.anywhere.bind fun position rest => (Mirrors.expect marked (by decide) _).bind fun _ rest => ?_
    dsimp only
    rw [← same]
    exact (further position rest rfl).relaxed
  case notIndexable =>
    intro room t rest parsed e noCall opens inside same
    refine .succ ?_
    simp only [suffixes]
    refine .pass marked (Token.ofKind?_of_ne noCall) (.accept marked (Token.ofKind?_of_eq opens) ?_)
    refine inside.anywhere.bind fun position rest => (Mirrors.expect marked (by decide) _).bind fun _ rest => ?_
    rw [← same]
    exact .error ⟨rfl, rfl⟩
  case noArguments =>
    intro rest room closes
    refine .succ ?_
    simp only [arguments]
    refine .peek marked ?_
    simp only [if_pos ((marked.kind_headD limit rest).trans closes)]
    exact (Mirrors.ok []).bind fun arguments rest => .followedBy marked (by decide) _ arguments
  case arguments =>
    intro room rest opens each
    refine .succ ?_
    simp only [arguments]
    refine .peek marked ?_
    simp only [if_neg fun closes => opens ((marked.kind_headD limit rest).symm.trans closes)]
    have read := separated_mirrors marked each rest []
    rw [show (fun out : List (Expr α) × List Token => ([] ++ out.1, out.2)) = id from rfl, Except.map_id] at read
    exact read.anywhere.bind fun arguments rest => .followedBy marked (by decide) _ arguments
  case primaryNil =>
    intro room
    refine .succ ?_
    simp only [primary]
    refine .peek marked ?_
    rw [List.headD_nil, isLast]
    exact .fail marked [] shows
  case leaf => exact fun room rest leaf => primary_leaf marked room rest leaf
  case unreadable =>
    intro t room rest isNumber unread
    refine .succ ?_
    simp only [primary]
    refine .peek marked ?_
    rw [List.headD_cons, isNumber]
    refine .advance marked ?_
    rw [unread]
    exact .error ⟨rfl, rfl⟩
  case parenthesised =>
    intro room t rest parsed opens inside
    refine .succ ?_
    simp only [primary]
    refine .peek marked ?_
    rw [List.headD_cons, opens]
    refine .advance marked ?_
    exact inside.anywhere.bind fun e rest => .followedBy marked (by decide) _ e
  case noStart =>
    intro t room rest noStart
    refine .succ ?_
    simp only [primary]
    refine .peek marked ?_
    rw [List.headD_cons]
    split
    · exact absurd ‹_› noStart.boolean
    · exact absurd ‹_› noStart.number
    · exact absurd ‹_› noStart.text
    · exact absurd ‹_› noStart.name
    · exact absurd ‹_› noStart.opening
    · exact .fail marked (t :: rest) shows

theorem mirroring_holds (marked : Marked tokens ahead last) :
    (mirroring α limit tokens ahead).Holds ⟨limit, last.line⟩ :=
  Expr.Motive.of_productions (mirroring_productions marked)

theorem expression_mirrors (marked : Marked tokens ahead last) (room : Nat) (rest : List Token) :
    Mirrors limit ahead (fun _ => True) 1 room rest (expression (α := α) limit tokens)
      (Expr.expression ⟨limit, last.line⟩ room rest) :=
  (mirroring_holds marked).expression room rest

end Mirroring

end Walk

end IndicatorScript
