import IndicatorScript.Proofs.Expr.Grammar

/-!
# Derived expressions are read

Whatever tokens derive an expression are read as that expression where the room is as large as their number and what
follows cannot go on with it. The induction is on the derivation. Within a chain the parser is not done but stands
behind the operands that it has read, with less room: each operator that has taken a level stands among the tokens, with
an operand behind it, so the tokens that are left still fit.

Since the parser is a function, no tokens derive two expressions (`Derives.unique`).
-/

namespace IndicatorScript

variable {α : Type} [Literal α]

/-! ## How derived tokens begin -/

/-- What tokens of this phrase can begin with: nothing that closes an argument list, and signs only in front of an
operand. -/
def Phrase.Begins (phrase : Phrase) (t : Token) : Prop :=
  t.kind ≠ .rightParen ∧ (phrase = .primary ∨ phrase = .suffixed → t.kind ≠ .bang ∧ t.kind ≠ .minus)

theorem Derives.begins {phrase : Phrase} {tokens : List Token} {e : Expr α} (derives : Derives phrase tokens e) :
    ∃ t rest, tokens = t :: rest ∧ phrase.Begins t := by
  have of_kind {t : Token} {kind : Token.Kind} (same : t.kind = kind)
      (other : kind ≠ .rightParen ∧ kind ≠ .bang ∧ kind ≠ .minus) : Phrase.primary.Begins t := by
    subst same
    exact ⟨other.1, fun _ => other.2⟩
  induction derives with
  | boolean kind | number kind | text kind | name kind => exact ⟨_, [], rfl, of_kind kind (by decide)⟩
  | parenthesised opens => exact ⟨_, _, rfl, of_kind opens (by decide)⟩
  | bare primary ih =>
    rcases ih with ⟨t, rest, rfl, other, unsigned⟩
    exact ⟨t, rest, rfl, other, fun _ => unsigned (.inl rfl)⟩
  | call named opens each separated closes ih =>
    rcases ih with ⟨t, rest, rfl, other, unsigned⟩
    exact ⟨t, _, rfl, other, fun _ => unsigned (.inl rfl)⟩
  | index named opens whole closes ih =>
    rcases ih with ⟨t, rest, rfl, other, unsigned⟩
    exact ⟨t, _, rfl, other, fun _ => unsigned (.inl rfl)⟩
  | unsigned suffixed ih =>
    rcases ih with ⟨t, rest, rfl, other, -⟩
    exact ⟨t, rest, rfl, other, by simp⟩
  | sign isSign isOperator =>
    refine ⟨_, _, rfl, ?_, by simp⟩
    rcases isSign with rfl | rfl <;> simp [isOperator, Operator.word, Test.kind, Arithmetic.kind]
  | operand operand ih =>
    rcases ih with ⟨t, rest, rfl, other, -⟩
    exact ⟨t, rest, rfl, other, by simp⟩
  | chain operands isTier isOperator operand ih =>
    rcases ih with ⟨t, rest, rfl, other, -⟩
    exact ⟨t, _, rfl, other, by simp⟩

theorem Derives.length_pos {phrase : Phrase} {tokens : List Token} {e : Expr α} (derives : Derives phrase tokens e) :
    0 < tokens.length := by
  rcases derives.begins with ⟨t, rest, rfl, -⟩
  exact Nat.succ_pos rest.length

/-! ## Operators by their kind -/

namespace Tier

variable {tier : Tier} {op : Operator} {t : Token}

theorem ofKind?_of_word (isTier : op.tier? = some tier) (isOperator : t.kind = op.word.kind) :
    ofKind? t.kind = some tier :=
  isOperator ▸ isTier

theorem operator?_of_kind (spelled : t.word.Spelled) (isTier : op.tier? = some tier)
    (isOperator : t.kind = op.word.kind) : tier.operator? t = some op := by
  have isChain := ofKind?_of_word isTier isOperator
  rcases t with ⟨kind, lexeme, line⟩
  unfold operator?
  rw [if_pos isChain]
  cases op with
  | arithmetic op =>
    cases op with
    | _ =>
      cases isOperator
      cases isTier
      rcases eq_ofList_of_toList spelled with rfl
      rfl
  | test op =>
    cases op with
    | not => cases isTier
    | and | or =>
      cases isOperator
      cases isTier
      rfl
    | _ =>
      cases isOperator
      cases isTier
      rcases eq_ofList_of_toList spelled with rfl
      rfl
  | unknown symbol => cases isTier

end Tier

theorem Operator.ofSymbol_of_kind {op : Operator} {t : Token} (spelled : t.word.Spelled) (isSign : op.IsSign)
    (isOperator : t.kind = op.word.kind) : Operator.ofSymbol t.lexeme = op := by
  rcases t with ⟨kind, lexeme, line⟩
  rcases isSign with rfl | rfl
  · cases isOperator
    rcases eq_ofList_of_toList spelled with rfl
    rfl
  · cases isOperator
    rcases eq_ofList_of_toList spelled with rfl
    rfl

/-! ## Reading what is derived -/

namespace Expr

variable {bounds : Bounds} {room : Nat} {tokens rest : List Token} {tier : Tier} {e : Expr α}

/-- With room for the tokens, the parser reads them as this expression; a chain it has read so far, and stands in it. -/
def IsRead (bounds : Bounds) (phrase : Phrase) (tokens : List Token) (e : Expr α) : Prop :=
  ∀ room rest, tokens.length ≤ room + 1 →
    match phrase with
    | .primary => primary bounds room (tokens ++ rest) = .ok (e, rest)
    | .suffixed => Stops 0 rest → suffixed bounds room (tokens ++ rest) = .ok (e, rest)
    | .signed => Stops 0 rest → signed bounds room (tokens ++ rest) = .ok (e, rest)
    | .chain tier => Stops tier.rank rest → ∃ below, room + 1 ≤ below + tokens.length ∧
        chained bounds tier room (tokens ++ rest) = chain bounds tier below e rest

theorem IsRead.operand (read : IsRead bounds tier.operands tokens e) (fits : tokens.length ≤ room + 1)
    (stops : Stops tier.rank rest) : operand bounds tier room (tokens ++ rest) = .ok (e, rest) := by
  cases isNext : tier.tighter? with
  | none =>
    rw [Tier.operands_of_tightest isNext] at read
    rw [operand_of_tightest isNext]
    exact read room rest fits (stops.mono (Nat.zero_le _))
  | some next =>
    have tighter := Tier.rank_of_tighter isNext
    rw [Tier.operands_of_next isNext] at read
    rcases read room rest fits (stops.mono (by omega)) with ⟨below, -, reads⟩
    rw [operand_of_next isNext, reads]
    exact chain_of_stops stops (by omega)

theorem IsRead.expression (read : IsRead bounds (.chain .or) tokens e) (nonempty : 0 < tokens.length)
    (fits : tokens.length ≤ room) (stops : Stops closedRank rest) :
    expression bounds room (tokens ++ rest) = .ok (e, rest) := by
  obtain ⟨room, rfl⟩ : ∃ below, room = below + 1 := ⟨room - 1, by omega⟩
  rcases read room rest fits (stops.mono (by decide)) with ⟨below, -, reads⟩
  rw [Expr.expression, reads]
  exact chain_of_stops stops (by decide)

/-! ### Arguments -/

theorem separated_of_isRead {pieces : List (List Token × Expr α)} {inside : List Token} {closing : Token}
    (separated : Separated (pieces.map Prod.fst) inside) (nonempty : pieces ≠ [])
    (each : ∀ piece ∈ pieces, 0 < piece.1.length ∧ IsRead bounds (.chain .or) piece.1 piece.2)
    (fits : inside.length ≤ room) (closes : closing.kind = .rightParen) (rest : List Token) :
    IndicatorScript.separated (expression bounds room) (inside ++ closing :: rest) =
      .ok (pieces.map Prod.snd, closing :: rest) := by
  induction pieces generalizing inside with
  | nil => exact absurd rfl nonempty
  | cons piece pieces ih =>
    rcases each piece List.mem_cons_self with ⟨filled, read⟩
    cases pieces with
    | nil =>
      cases separated
      have stops : Stops closedRank (closing :: rest) := .closed_cons (by simp [closes]) rest
      rw [IndicatorScript.separated, read.expression filled fits stops]
      simp [bind, Except.bind, closes]
    | cons next others =>
      cases separated with
      | @more _ _ tokens _ comma isComma further =>
        rw [List.length_append, List.length_cons] at fits
        have stops : Stops closedRank (comma :: (tokens ++ closing :: rest)) := .closed_cons (by simp [isComma]) _
        have others := ih further (List.cons_ne_nil _ _) (fun piece mem => each piece (List.mem_cons_of_mem _ mem))
          (by omega)
        rw [List.append_assoc, List.cons_append, IndicatorScript.separated,
          read.expression filled (by omega) stops]
        simp only [bind, Except.bind, isComma]
        rw [if_pos ⟨trivial, by simp; omega⟩, others]
        rfl

theorem arguments_of_isRead {pieces : List (List Token × Expr α)} {inside : List Token} {closing : Token}
    (separated : Separated (pieces.map Prod.fst) inside)
    (each : ∀ piece ∈ pieces, Derives (.chain .or) piece.1 piece.2 ∧ IsRead bounds (.chain .or) piece.1 piece.2)
    (fits : inside.length ≤ room) (closes : closing.kind = .rightParen) (rest : List Token) :
    arguments bounds room (inside ++ closing :: rest) = .ok (pieces.map Prod.snd, rest) := by
  cases pieces with
  | nil =>
    cases separated
    rw [arguments]
    simp [Bounds.next, closes, bind, Except.bind, Bounds.expect]
  | cons piece pieces =>
    have reads := separated_of_isRead separated (List.cons_ne_nil _ _)
      (fun piece mem => ⟨(each piece mem).1.length_pos, (each piece mem).2⟩) fits closes rest
    have notClosed : (bounds.next (inside ++ closing :: rest)).kind ≠ .rightParen := by
      rcases (each piece List.mem_cons_self).1.begins with ⟨t, others, begins, other, -⟩
      rcases separated.of_cons with ⟨after, rfl⟩
      simpa [begins, Bounds.next] using other
    rw [arguments, if_neg notClosed, reads]
    simp [bind, Except.bind, Bounds.expect, closes]

/-! ### All phrases -/

theorem isRead_call {callee inside : List Token} {function : String} {opening closing : Token}
    {pieces : List (List Token × Expr α)} (named : IsRead bounds .primary callee (.name function : Expr α))
    (opens : opening.kind = .leftParen) (separated : Separated (pieces.map Prod.fst) inside)
    (each : ∀ piece ∈ pieces, Derives (.chain .or) piece.1 piece.2 ∧ IsRead bounds (.chain .or) piece.1 piece.2)
    (closes : closing.kind = .rightParen) :
    IsRead bounds .suffixed (callee ++ opening :: (inside ++ [closing])) (.call function (pieces.map Prod.snd)) := by
  intro room rest fits stops
  simp only [List.length_append, List.length_cons, List.length_nil] at fits
  have head : primary bounds room (callee ++ opening :: (inside ++ closing :: rest)) =
      .ok (.name function, opening :: (inside ++ closing :: rest)) := named room _ (by omega)
  have reads : arguments bounds room (inside ++ closing :: rest) = .ok (pieces.map Prod.snd, rest) :=
    arguments_of_isRead separated each (by omega) closes rest
  have same : callee ++ opening :: (inside ++ [closing]) ++ rest =
      callee ++ opening :: (inside ++ closing :: rest) := by
    simp
  rw [same, suffixed, head]
  simp only [bind, Except.bind, name?]
  rw [suffixes, if_pos opens, reads]
  exact suffixes_of_stops stops

theorem isRead_index {indexed inside : List Token} {series : String} {opening closing : Token} {position : Expr α}
    (named : IsRead bounds .primary indexed (.name series : Expr α)) (opens : opening.kind = .leftBracket)
    (nonempty : 0 < inside.length) (whole : IsRead bounds (.chain .or) inside position)
    (closes : closing.kind = .rightBracket) :
    IsRead bounds .suffixed (indexed ++ opening :: (inside ++ [closing])) (.index series position) := by
  intro room rest fits stops
  simp only [List.length_append, List.length_cons, List.length_nil] at fits
  have head : primary bounds room (indexed ++ opening :: (inside ++ closing :: rest)) =
      .ok (.name series, opening :: (inside ++ closing :: rest)) := named room _ (by omega)
  have stopsInside : Stops closedRank (closing :: rest) := .closed_cons (by simp [closes]) rest
  have reads : expression bounds room (inside ++ closing :: rest) = .ok (position, closing :: rest) :=
    whole.expression nonempty (by omega) stopsInside
  have same : indexed ++ opening :: (inside ++ [closing]) ++ rest =
      indexed ++ opening :: (inside ++ closing :: rest) := by
    simp
  rw [same, suffixed, head]
  simp only [bind, Except.bind, name?]
  rw [suffixes, if_neg (by simp [opens]), if_pos opens, reads]
  simp only [bind, Except.bind, Bounds.expect, closes, if_true]
  exact suffixes_of_stops stops

theorem isRead_chain {first second : List Token} {t : Token} {op : Operator} {left right : Expr α}
    (operands : IsRead bounds (.chain tier) first left) (spelled : t.word.Spelled) (isTier : op.tier? = some tier)
    (isOperator : t.kind = op.word.kind) (operand : IsRead bounds tier.operands second right) :
    IsRead bounds (.chain tier) (first ++ t :: second) (.binary left op right) := by
  intro room rest fits stops
  simp only [List.length_append, List.length_cons] at fits ⊢
  have isChain := Tier.ofKind?_of_word isTier isOperator
  rcases operands room (t :: (second ++ rest)) (by omega) (.operator_cons isChain _) with ⟨below, enough, reads⟩
  obtain ⟨below, rfl⟩ : ∃ less, below = less + 1 := ⟨below - 1, by omega⟩
  refine ⟨below, by omega, ?_⟩
  have further : Expr.operand bounds tier below (second ++ rest) = .ok (right, rest) := operand.operand (by omega) stops
  rw [List.append_assoc, List.cons_append, reads, chain, Tier.operator?_of_kind spelled isTier isOperator]
  simp only [bind, Except.bind, further]

theorem isRead_sign {t : Token} {op : Operator} (spelled : t.word.Spelled) (isSign : op.IsSign)
    (isOperator : t.kind = op.word.kind) (nonempty : 0 < tokens.length) (operand : IsRead bounds .signed tokens e) :
    IsRead bounds .signed (t :: tokens) (.binary (.number Literal.zero) op e) := by
  intro room rest fits stops
  rw [List.length_cons] at fits
  obtain ⟨room, rfl⟩ : ∃ below, room = below + 1 := ⟨room - 1, by omega⟩
  have further : signed bounds room (tokens ++ rest) = .ok (e, rest) := operand room rest (by omega) stops
  have kind : t.kind = .bang ∨ t.kind = .minus := by
    rcases isSign with rfl | rfl
    · exact .inl isOperator
    · exact .inr isOperator
  rw [List.cons_append, signed.eq_def]
  dsimp only
  rw [if_pos kind, further, Operator.ofSymbol_of_kind spelled isSign isOperator]
  rfl

theorem isRead_token {t : Token} (reads : ∀ room rest, primary bounds room (t :: rest) = .ok (e, rest)) :
    IsRead bounds .primary [t] e :=
  fun room rest _ => reads room rest

theorem isRead_parenthesised {opening closing : Token} {inside : List Token} (opens : opening.kind = .leftParen)
    (nonempty : 0 < inside.length) (whole : IsRead bounds (.chain .or) inside e) (closes : closing.kind = .rightParen) :
    IsRead bounds .primary (opening :: (inside ++ [closing])) e := by
  intro room rest fits
  simp only [List.length_append, List.length_cons, List.length_nil] at fits
  have stops : Stops closedRank (closing :: rest) := .closed_cons (by simp [closes]) rest
  have reads : expression bounds room (inside ++ closing :: rest) = .ok (e, closing :: rest) :=
    whole.expression nonempty (by omega) stops
  have same : opening :: (inside ++ [closing]) ++ rest = opening :: (inside ++ closing :: rest) := by simp
  dsimp only
  rw [same]
  exact primary_of_parenthesised opens reads closes

theorem IsRead.suffixed (read : IsRead bounds .primary tokens e) : IsRead bounds .suffixed tokens e := by
  intro room rest fits stops
  have reads : primary bounds room (tokens ++ rest) = .ok (e, rest) := read room rest fits
  rw [Expr.suffixed, reads]
  exact suffixes_of_stops stops

theorem IsRead.signed (derives : Derives .suffixed tokens e) (read : IsRead bounds .suffixed tokens e) :
    IsRead bounds .signed tokens e := by
  intro room rest fits stops
  have reads : Expr.suffixed bounds room (tokens ++ rest) = .ok (e, rest) := read room rest fits stops
  rcases derives.begins with ⟨t, others, rfl, -, unsigned⟩
  have unsigned := unsigned (.inr rfl)
  rw [List.cons_append] at reads ⊢
  rw [Expr.signed.eq_def]
  dsimp only
  rw [if_neg (by simp [unsigned]), reads]

theorem IsRead.chain (nonempty : 0 < tokens.length) (read : IsRead bounds tier.operands tokens e) :
    IsRead bounds (.chain tier) tokens e :=
  fun room _ fits stops => ⟨room, by omega, chained_of_operand (read.operand fits stops)⟩

theorem isRead_of_derives {phrase : Phrase} (derives : Derives phrase tokens e) (spelled : Spelled tokens) :
    IsRead bounds phrase tokens e := by
  induction derives with
  | boolean kind => exact isRead_token fun room rest => by rw [primary, kind]
  | number kind reads => exact isRead_token fun room rest => by simp only [primary, kind, reads]
  | text kind => exact isRead_token fun room rest => by rw [primary, kind]
  | name kind => exact isRead_token fun room rest => by rw [primary, kind]
  | parenthesised opens whole closes ih =>
    have inside := spelled.tail.first
    exact isRead_parenthesised opens whole.length_pos (ih inside) closes
  | bare primary ih => exact (ih spelled).suffixed
  | call named opens each separated closes ihNamed ihEach =>
    have inside := spelled.rest.tail.first
    refine isRead_call (ihNamed spelled.first) opens separated (fun piece mem => ⟨each piece mem, ?_⟩) closes
    exact ihEach piece mem (inside.piece separated (List.mem_map_of_mem mem))
  | index named opens whole closes ihNamed ihWhole =>
    have inside := spelled.rest.tail.first
    exact isRead_index (ihNamed spelled.first) opens whole.length_pos (ihWhole inside) closes
  | unsigned suffixed ih => exact (ih spelled).signed suffixed
  | sign isSign isOperator operand ih =>
    have operator := spelled _ List.mem_cons_self
    exact isRead_sign operator isSign isOperator operand.length_pos (ih spelled.tail)
  | operand operand ih => exact (ih spelled).chain operand.length_pos
  | chain operands isTier isOperator operand ihFirst ihSecond =>
    have operator := spelled.rest _ List.mem_cons_self
    exact isRead_chain (ihFirst spelled.first) operator isTier isOperator (ihSecond spelled.rest.tail)

end Expr

theorem Derives.unique {tokens : List Token} {e other : Expr α} (spelled : Spelled tokens)
    (derives : Derives (.chain .or) tokens e) (derivesOther : Derives (.chain .or) tokens other) : e = other := by
  have reads {e : Expr α} (derives : Derives (.chain .or) tokens e) :
      Expr.expression ⟨.whole 0, 0⟩ tokens.length (tokens ++ []) = .ok (e, []) :=
    (Expr.isRead_of_derives derives spelled).expression derives.length_pos (Nat.le_refl _) (.nil _)
  have same := (reads derives).symm.trans (reads derivesOther)
  cases same
  rfl

end IndicatorScript
