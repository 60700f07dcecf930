import IndicatorScript.Proofs.Expr.Printing
import IndicatorScript.Proofs.Expr.Productions

/-!
# Parsing printed expressions

Parsing undoes printing where the levels of the expression fit into the room that is left. The words of a chain are
not read at once: after its first operands the parser is in the middle of the chain, with less room. So the induction
says where it stands then (`Expr.Reparses`), whatever follows that does not bind more tightly.
-/

namespace IndicatorScript

open Token (Word)

namespace Tier

theorem rank_of_tighter {tier next : Tier} (h : tier.tighter? = some next) : next.rank + 1 = tier.rank := by
  cases tier <;> cases h <;> rfl

theorem rank_of_tightest {tier : Tier} (h : tier.tighter? = none) : tier.rank = 1 := by
  cases tier <;> first | rfl | cases h

theorem rank_le (tier : Tier) : tier.rank ≤ 6 := by
  cases tier <;> decide

theorem rank_pos (tier : Tier) : 0 < tier.rank := by
  cases tier <;> decide

theorem rank_injective {tier other : Tier} (h : tier.rank = other.rank) : tier = other := by
  cases tier <;> cases other <;> first | rfl | cases h

end Tier

/-- Nothing at the front of these tokens goes on with an operand of an operator of this rank: no arguments, no position,
and no operator that binds more tightly. -/
def Stops (rank : Nat) (rest : List Token) : Prop :=
  ∀ t ∈ rest.head?, t.kind ≠ .leftParen ∧ t.kind ≠ .leftBracket ∧
    ∀ tier, Tier.ofKind? t.kind = some tier → rank ≤ tier.rank

def closedRank : Nat := 7

theorem Stops.mono {rank lower : Nat} {rest : List Token} (stops : Stops rank rest) (le : lower ≤ rank) :
    Stops lower rest :=
  fun t ht => ⟨(stops t ht).1, (stops t ht).2.1, fun tier h => Nat.le_trans le ((stops t ht).2.2 tier h)⟩

theorem Stops.nil (rank : Nat) : Stops rank [] := nofun

theorem Stops.closed_cons {t : Token} (closes : t.kind ∈ [.rightParen, .rightBracket, .comma, .newline])
    (rest : List Token) : Stops closedRank (t :: rest) := by
  intro u hu
  cases hu
  simp only [List.mem_cons, List.not_mem_nil, or_false] at closes
  obtain kind | kind | kind | kind := closes <;> simp [kind, Tier.ofKind?]

theorem Stops.operator_cons {t : Token} {tier : Tier} (isTier : Tier.ofKind? t.kind = some tier) (rest : List Token) :
    Stops tier.rank (t :: rest) := by
  intro u hu
  cases hu
  refine ⟨?_, ?_, fun other h => (Option.some.inj (isTier.symm.trans h)) ▸ Nat.le_refl _⟩
  · intro kind
    simp [kind, Tier.ofKind?] at isTier
  · intro kind
    simp [kind, Tier.ofKind?] at isTier

theorem bracketed_of_words {tokens : List Token} {words : List Word} {first last : Word}
    (printed : tokens.map Token.word = first :: words ++ [last]) :
    ∃ opening inner closing, (∀ rest, tokens ++ rest = opening :: (inner ++ closing :: rest)) ∧
      opening.kind = first.kind ∧ inner.map Token.word = words ∧ closing.kind = last.kind := by
  obtain ⟨opening, after, rfl, opens, within⟩ := List.map_eq_cons_iff.mp printed
  obtain ⟨inner, ends, rfl, same, closed⟩ := List.map_eq_append_iff.mp within
  obtain ⟨closing, rfl, closes⟩ := List.map_eq_singleton_iff.mp closed
  exact ⟨opening, inner, closing, fun rest => by simp, congrArg Word.kind opens, same, congrArg Word.kind closes⟩

theorem content_of_quoted {t : Token} {s : String} (lexeme : t.lexeme = "\"" ++ s ++ "\"") : t.content = s := by
  simp [Token.content, lexeme]

namespace Expr

variable {α : Type} [Literal α] (bounds : Bounds)

/-! ## Between the forms -/

section Forms

variable {bounds} {room rank : Nat} {tokens rest : List Token} {tier : Tier} {e : Expr α}

theorem chain_of_stops (stops : Stops rank rest) (tighter : tier.rank < rank) :
    chain bounds tier room e rest = .ok (e, rest) := by
  cases rest with
  | nil => rw [chain]
  | cons t rest =>
    have none : tier.operator? t = none := by
      unfold Tier.operator?
      refine if_neg fun isTier => ?_
      exact absurd ((stops t rfl).2.2 tier isTier) (by omega)
    rw [chain, none]

theorem suffixes_of_stops {name : Option String} (stops : Stops rank rest) :
    suffixes bounds room e name rest = .ok (e, rest) := by
  cases rest with
  | nil => rw [suffixes]
  | cons t rest => rw [suffixes, if_neg (stops t rfl).1, if_neg (stops t rfl).2.1]

theorem signed_of_primary {t : Token} (bang : t.kind ≠ .bang) (minus : t.kind ≠ .minus)
    (reads : primary bounds room (t :: tokens) = .ok (e, rest)) (stops : Stops 0 rest) :
    signed bounds room (t :: tokens) = .ok (e, rest) := by
  rw [signed.eq_def]
  dsimp only
  rw [if_neg (by simp [bang, minus]), suffixed, reads]
  exact suffixes_of_stops stops

theorem primary_of_parenthesised {opening closing : Token} (opens : opening.kind = .leftParen)
    (reads : expression bounds room tokens = .ok (e, closing :: rest)) (closes : closing.kind = .rightParen) :
    primary bounds room (opening :: tokens) = .ok (e, rest) := by
  rw [primary, opens]
  simp [reads, bind, Except.bind, Bounds.expect, closes]

theorem signed_of_name {t : Token} (kind : t.kind = .identifier) :
    signed (α := α) bounds room (t :: tokens) = suffixes bounds room (.name t.lexeme) (some t.lexeme) tokens := by
  rw [signed.eq_def]
  dsimp only
  rw [if_neg (by simp [kind]), suffixed, primary, kind]
  rfl

theorem chained_of_operand (reads : operand bounds tier room tokens = .ok (e, rest)) :
    chained bounds tier room tokens = chain bounds tier room e rest := by
  rw [chained, reads]
  rfl

theorem operand_of_signed (reads : signed bounds room tokens = .ok (e, rest)) (stops : Stops tier.rank rest) :
    operand bounds tier room tokens = .ok (e, rest) := by
  induction rank : tier.rank using Nat.strongRecOn generalizing tier with
  | ind _ ih =>
    cases next : tier.tighter? with
    | none => rw [operand_of_tightest next, reads]
    | some tighter =>
      have below := Tier.rank_of_tighter next
      rw [operand_of_next next, chained_of_operand (ih _ (by omega) (stops.mono (by omega)) rfl)]
      exact chain_of_stops stops (by omega)

theorem operand_of_tighter {inner : Tier} (reads : chained bounds inner room tokens = .ok (e, rest))
    (tighter : inner.rank < tier.rank) (stops : Stops tier.rank rest) :
    operand bounds tier room tokens = .ok (e, rest) := by
  induction rank : tier.rank using Nat.strongRecOn generalizing tier with
  | ind _ ih =>
    cases next : tier.tighter? with
    | none =>
      have tightest := Tier.rank_of_tightest next
      have := inner.rank_pos
      omega
    | some outer =>
      have below := Tier.rank_of_tighter next
      rw [operand_of_next next]
      by_cases same : inner.rank = outer.rank
      · rw [← Tier.rank_injective same, reads]
      · rw [chained_of_operand (ih _ (by omega) (by omega) (stops.mono (by omega)) rfl)]
        exact chain_of_stops stops (by omega)

end Forms

/-! ## Printed operands -/

/-- Where its levels fit, a printed expression is read as itself: at once if nothing in it binds more loosely than a
sign, and else as the first operands of a chain. -/
structure Reparses (e : Expr (Numeral α)) : Prop where
  signed {room : Nat} {tokens : List Token} (tight : e.looseness = 0) (fits : e.levels ≤ room)
    (printed : tokens.map Token.word = e.words) (rest : List Token) (stops : Stops 0 rest) :
    signed bounds room (tokens ++ rest) = .ok (e.map Numeral.value, rest)
  chained {room : Nat} {tokens : List Token} {tier : Tier} (loose : e.looseness ≤ tier.rank) (fits : e.levels ≤ room)
    (printed : tokens.map Token.word = e.words) (rest : List Token) (stops : Stops tier.rank rest) :
    chained bounds tier room (tokens ++ rest) = chain bounds tier (room - e.spine tier) (e.map Numeral.value) rest

section Operands

variable {bounds} {e : Expr (Numeral α)}

theorem spine_eq_zero {e : Expr β} {tier : Tier} (h : e.looseness ≠ tier.rank) : e.spine tier = 0 := by
  cases e with
  | binary left op right =>
    refine if_neg fun isTier => h ?_
    simp [looseness, isTier]
  | _ => rfl

theorem looseness_le (e : Expr β) : e.looseness ≤ 6 := by
  cases e with
  | binary left op right =>
    rw [looseness]
    cases op.tier? with
    | none => exact Nat.zero_le _
    | some tier => exact tier.rank_le
  | _ => exact Nat.zero_le _

theorem Reparses.of_signed (tight : e.looseness = 0)
    (reads : ∀ {room : Nat} {tokens : List Token}, e.levels ≤ room → tokens.map Token.word = e.words →
      ∀ rest, Stops 0 rest → Expr.signed bounds room (tokens ++ rest) = .ok (e.map Numeral.value, rest)) :
    e.Reparses bounds where
  signed _ := reads
  chained {room tokens tier} _ fits printed rest stops := by
    have noSpine : e.spine tier = 0 := spine_eq_zero (by have := tier.rank_pos; omega)
    rw [noSpine]
    exact chained_of_operand (operand_of_signed (reads fits printed rest (stops.mono (Nat.zero_le _))) stops)

theorem Reparses.expression (reparses : e.Reparses bounds) {room : Nat} {tokens : List Token} (fits : e.levels < room)
    (printed : tokens.map Token.word = e.words) (rest : List Token) (stops : Stops closedRank rest) :
    expression bounds room (tokens ++ rest) = .ok (e.map Numeral.value, rest) := by
  obtain ⟨room, rfl⟩ : ∃ below, room = below + 1 := ⟨room - 1, by omega⟩
  have loose : e.looseness ≤ Tier.or.rank := e.looseness_le
  rw [Expr.expression, reparses.chained loose (by omega) printed rest (stops.mono (by decide))]
  exact chain_of_stops stops (by decide)

theorem Reparses.parenthesised (reparses : e.Reparses bounds) {room : Nat} {tokens : List Token}
    (fits : e.levels < room) (printed : tokens.map Token.word = enclosed true e.words) (rest : List Token)
    (stops : Stops 0 rest) :
    Expr.signed bounds room (tokens ++ rest) = .ok (e.map Numeral.value, rest) := by
  obtain ⟨opening, inner, closing, same, opens, printed, closes⟩ := bracketed_of_words printed
  rw [same rest]
  refine signed_of_primary (by simp [opens]) (by simp [opens]) (primary_of_parenthesised opens ?_ closes) stops
  exact reparses.expression fits printed _ (.closed_cons (by simp [closes]) rest)

theorem Reparses.operand (reparses : e.Reparses bounds) {room : Nat} {tokens : List Token} {tier : Tier}
    (fits : e.levels + (decide (tier.rank ≤ e.looseness)).toNat ≤ room)
    (printed : tokens.map Token.word = enclosed (tier.rank ≤ e.looseness) e.words) (rest : List Token)
    (stops : Stops tier.rank rest) :
    Expr.operand bounds tier room (tokens ++ rest) = .ok (e.map Numeral.value, rest) := by
  by_cases loose : tier.rank ≤ e.looseness
  · simp only [loose, decide_true, Bool.toNat_true] at fits printed
    exact operand_of_signed (reparses.parenthesised fits printed rest (stops.mono (Nat.zero_le _))) stops
  · simp only [loose, decide_false, Bool.toNat_false, enclosed, Bool.false_eq_true, if_false] at fits printed
    cases next : tier.tighter? with
    | none =>
      have tightest := Tier.rank_of_tightest next
      rw [operand_of_tightest next]
      exact reparses.signed (by omega) fits printed rest (stops.mono (Nat.zero_le _))
    | some tighter =>
      have below := Tier.rank_of_tighter next
      rw [operand_of_next next, reparses.chained (by omega) fits printed rest (stops.mono (by omega))]
      exact chain_of_stops stops (by omega)

theorem Reparses.behindSign (reparses : e.Reparses bounds) {room : Nat} {tokens : List Token}
    (fits : e.levels + (decide (0 < e.looseness)).toNat ≤ room)
    (printed : tokens.map Token.word = enclosed (0 < e.looseness) e.words) (rest : List Token) (stops : Stops 0 rest) :
    Expr.signed bounds room (tokens ++ rest) = .ok (e.map Numeral.value, rest) := by
  by_cases loose : 0 < e.looseness
  · simp only [loose, decide_true, Bool.toNat_true] at fits printed
    exact reparses.parenthesised fits printed rest stops
  · simp only [loose, decide_false, Bool.toNat_false, enclosed, Bool.false_eq_true, if_false] at fits printed
    exact reparses.signed (by omega) fits printed rest stops

theorem Reparses.firstOperands (reparses : e.Reparses bounds) {room : Nat} {tokens : List Token} {tier : Tier}
    (fits : e.levels + (decide (tier.rank < e.looseness)).toNat ≤ room)
    (printed : tokens.map Token.word = enclosed (tier.rank < e.looseness) e.words) (rest : List Token)
    (stops : Stops tier.rank rest) :
    Expr.chained bounds tier room (tokens ++ rest) =
      chain bounds tier (room - e.spine tier) (e.map Numeral.value) rest := by
  by_cases loose : tier.rank < e.looseness
  · simp only [loose, decide_true, Bool.toNat_true] at fits printed
    rw [spine_eq_zero (show e.looseness ≠ tier.rank by omega)]
    exact chained_of_operand
      (operand_of_signed (reparses.parenthesised fits printed rest (stops.mono (Nat.zero_le _))) stops)
  · simp only [loose, decide_false, Bool.toNat_false, enclosed, Bool.false_eq_true, if_false] at fits printed
    exact reparses.chained (by omega) fits printed rest stops

end Operands

/-! ## Arguments -/

section Arguments

variable {bounds}

theorem separated_further {room : Nat} {arguments : List (Expr (Numeral α))}
    (each : ∀ e ∈ arguments, e.Reparses bounds) (fits : argumentLevels arguments ≤ room) {tokens : List Token}
    (printed : tokens.map Token.word = furtherWords arguments) {closing : Token} (closes : closing.kind = .rightParen)
    (rest : List Token) {first : Expr (Numeral α)} (firstReparses : first.Reparses bounds)
    (firstFits : first.levels < room) {firstTokens : List Token}
    (firstPrinted : firstTokens.map Token.word = first.words) :
    separated (expression bounds room) (firstTokens ++ tokens ++ closing :: rest) =
      .ok (first.map Numeral.value :: arguments.map (map Numeral.value), closing :: rest) := by
  induction arguments generalizing first firstTokens tokens with
  | nil =>
    obtain rfl := List.map_eq_nil_iff.mp printed
    have stops : Stops closedRank (closing :: rest) := .closed_cons (by simp [closes]) rest
    rw [List.append_nil, separated, firstReparses.expression firstFits firstPrinted _ stops]
    simp [bind, Except.bind, closes]
  | cons e arguments ih =>
    rw [furtherWords, List.cons_append] at printed
    obtain ⟨comma, after, rfl, isComma, printed⟩ := List.map_eq_cons_iff.mp printed
    obtain ⟨own, others, rfl, printed, othersPrinted⟩ := List.map_eq_append_iff.mp printed
    have commaKind : comma.kind = .comma := congrArg (·.kind) isComma
    rw [argumentLevels] at fits
    have stops : Stops closedRank (comma :: (own ++ others ++ closing :: rest)) :=
      .closed_cons (by simp [commaKind]) _
    have further := ih (fun e mem => each e (List.mem_cons_of_mem _ mem)) (by omega) othersPrinted
      (each e List.mem_cons_self) (by omega) printed
    rw [List.append_assoc, List.cons_append, separated, firstReparses.expression firstFits firstPrinted _ stops]
    simp only [bind, Except.bind, commaKind]
    rw [if_pos ⟨trivial, by simp; omega⟩, further]
    rfl

theorem head_words (e : Expr (Numeral α)) : ∃ w rest, e.words = w :: rest ∧ w.kind ≠ .rightParen := by
  induction e using Expr.induction with
  | number | text | boolean | name | call | index => exact ⟨_, _, rfl, by simp⟩
  | binary left op right ihLeft _ =>
    cases isTier : op.tier? with
    | none =>
      refine ⟨_, _, words_of_sign isTier, ?_⟩
      obtain rfl | ⟨symbol, rfl⟩ := Operator.tier?_eq_none_iff.mp isTier <;> simp [Operator.word, Test.kind]
    | some tier =>
      obtain ⟨w, rest, begins, other⟩ := ihLeft
      rw [words_of_tier isTier, begins]
      unfold enclosed
      split
      · exact ⟨_, _, rfl, by simp⟩
      · exact ⟨w, _, rfl, other⟩

theorem arguments_words {room : Nat} {arguments : List (Expr (Numeral α))}
    (each : ∀ e ∈ arguments, e.Reparses bounds) (fits : argumentLevels arguments ≤ room) {tokens : List Token}
    (printed : tokens.map Token.word = argumentWords arguments) {closing : Token} (closes : closing.kind = .rightParen)
    (rest : List Token) :
    Expr.arguments bounds room (tokens ++ closing :: rest) = .ok (arguments.map (map Numeral.value), rest) := by
  cases arguments with
  | nil =>
    obtain rfl := List.map_eq_nil_iff.mp printed
    rw [Expr.arguments]
    simp [Bounds.next, closes, bind, Except.bind, Bounds.expect]
  | cons e arguments =>
    rw [argumentWords] at printed
    obtain ⟨own, others, rfl, printed, othersPrinted⟩ := List.map_eq_append_iff.mp printed
    rw [argumentLevels] at fits
    have firstFits : e.levels < room := by omega
    have reads := separated_further (fun e mem => each e (List.mem_cons_of_mem _ mem)) (by omega) othersPrinted closes
      rest (each e List.mem_cons_self) firstFits printed
    have notClosed : (bounds.next (own ++ others ++ closing :: rest)).kind ≠ .rightParen := by
      obtain ⟨w, ws, begins, other⟩ := e.head_words
      obtain ⟨t, after, rfl, same, -⟩ := List.map_eq_cons_iff.mp (printed.trans begins)
      exact fun closed => other ((congrArg Word.kind same).symm.trans closed)
    rw [Expr.arguments, if_neg notClosed, reads]
    simp [bind, Except.bind, Bounds.expect, closes]

end Arguments

/-! ## Whole expressions -/

theorem reparses_call {function : String} {arguments : List (Expr (Numeral α))}
    (each : ∀ e ∈ arguments, e.Reparses bounds) : (call function arguments).Reparses bounds := by
  refine .of_signed rfl fun {room tokens} fits printed rest stops => ?_
  obtain ⟨called, after, rfl, isCalled, within⟩ := List.map_eq_cons_iff.mp printed
  obtain ⟨opening, inner, closing, same, opens, printed, closes⟩ := bracketed_of_words within
  obtain ⟨kind, lexeme⟩ : called.kind = .identifier ∧ called.lexeme = function := Word.mk.inj isCalled
  rw [List.cons_append, same rest, signed_of_name kind, lexeme, suffixes, if_pos opens,
    arguments_words each fits printed closes rest]
  simpa only [bind, Except.bind, map, mapAll_eq] using suffixes_of_stops stops

theorem reparses_index {series : String} {position : Expr (Numeral α)} (reparses : position.Reparses bounds) :
    (index series position).Reparses bounds := by
  refine .of_signed rfl fun {room tokens} fits printed rest stops => ?_
  obtain ⟨indexed, after, rfl, isIndexed, within⟩ := List.map_eq_cons_iff.mp printed
  obtain ⟨opening, inner, closing, same, opens, printed, closes⟩ := bracketed_of_words within
  obtain ⟨kind, lexeme⟩ : indexed.kind = .identifier ∧ indexed.lexeme = series := Word.mk.inj isIndexed
  have fitsInside : position.levels < room := by rw [levels] at fits; omega
  have reads := reparses.expression fitsInside printed (closing :: rest) (.closed_cons (by simp [closes]) rest)
  rw [List.cons_append, same rest, signed_of_name kind, lexeme, suffixes, if_neg (by simp [opens]), if_pos opens,
    reads]
  simpa only [bind, Except.bind, map, Bounds.expect, closes, if_true] using suffixes_of_stops stops

theorem reparses_sign {left right : Expr (Numeral α)}
    (zero : ∃ n : Numeral α, left = .number n ∧ n.value = Literal.zero) (reparses : right.Reparses bounds) :
    (binary left (.test .not) right).Reparses bounds := by
  refine .of_signed rfl fun {room tokens} fits printed rest stops => ?_
  obtain ⟨n, rfl, isZero⟩ := zero
  rw [words_of_sign rfl] at printed
  obtain ⟨sign, inner, rfl, isSign, printed⟩ := List.map_eq_cons_iff.mp printed
  obtain ⟨kind, lexeme⟩ : sign.kind = .bang ∧ sign.lexeme = "!" := Word.mk.inj isSign
  rw [levels_of_sign rfl] at fits
  obtain ⟨room, rfl⟩ : ∃ below, room = below + 1 := ⟨room - 1, by omega⟩
  have fitsBelow : right.levels + (decide (0 < right.looseness)).toNat ≤ room := by omega
  have reads := reparses.behindSign fitsBelow printed rest stops
  rw [List.cons_append, signed.eq_def]
  simp [kind, reads, bind, Except.bind, lexeme, Operator.ofSymbol, map, isZero]

/-- The parser reads the first operands of a chain, an operator and its right operand, and stands in the chain again. -/
theorem reparses_chain {left right : Expr (Numeral α)} {op : Operator} {tier : Tier} (isTier : op.tier? = some tier)
    (leftReparses : left.Reparses bounds) (rightReparses : right.Reparses bounds) :
    (binary left op right).Reparses bounds := by
  have loose : (binary left op right).looseness = tier.rank := by simp [looseness, isTier]
  have ownTier {room : Nat} {tokens : List Token} (fits : (binary left op right).levels ≤ room)
      (printed : tokens.map Token.word = (binary left op right).words) (rest : List Token)
      (stops : Stops tier.rank rest) :
      Expr.chained bounds tier room (tokens ++ rest) =
        chain bounds tier (room - (left.spine tier + 1)) (.binary (left.map Numeral.value) op (right.map Numeral.value))
          rest := by
    rw [levels_of_tier isTier] at fits
    rw [words_of_tier isTier] at printed
    obtain ⟨first, after, rfl, firstPrinted, within⟩ := List.map_eq_append_iff.mp printed
    obtain ⟨t, second, rfl, isOperator, secondPrinted⟩ := List.map_eq_cons_iff.mp within
    have isOperator' := Operator.operator?_of_word isTier isOperator
    have tTier : Tier.ofKind? t.kind = some tier := by
      rw [show t.kind = op.word.kind from congrArg Word.kind isOperator]
      exact isTier
    obtain ⟨below, reached⟩ : ∃ below, room - left.spine tier = below + 1 := ⟨room - left.spine tier - 1, by omega⟩
    have leftFits : left.levels + (decide (tier.rank < left.looseness)).toNat ≤ room := by omega
    have rightFits : right.levels + (decide (tier.rank ≤ right.looseness)).toNat ≤ below := by omega
    have reads := rightReparses.operand rightFits secondPrinted rest stops
    rw [List.append_assoc, List.cons_append,
      leftReparses.firstOperands leftFits firstPrinted _ (.operator_cons tTier _), reached, chain, isOperator']
    simp only [reads, bind, Except.bind]
    rw [show room - (left.spine tier + 1) = below by omega]
  refine ⟨fun tight => ?_, fun {room tokens outer} looseEnough fits printed rest stops => ?_⟩
  · have := tier.rank_pos
    omega
  · by_cases same : outer = tier
    · subst same
      rw [ownTier fits printed rest stops, spine, if_pos isTier]
      rfl
    · have tighter : tier.rank < outer.rank :=
        Nat.lt_of_le_of_ne (loose ▸ looseEnough) fun equal => same (Tier.rank_injective equal).symm
      have reads : Expr.chained bounds tier room (tokens ++ rest) =
          .ok (.binary (left.map Numeral.value) op (right.map Numeral.value), rest) := by
        rw [ownTier fits printed rest (stops.mono (by omega))]
        exact chain_of_stops stops tighter
      rw [chained_of_operand (operand_of_tighter reads tighter stops), spine_eq_zero (by omega)]
      rfl

theorem Printable.reparses {e : Expr (Numeral α)} (printable : e.Printable) : e.Reparses bounds := by
  induction e using Expr.induction with
  | number n =>
    refine .of_signed rfl fun {room tokens} _ printed rest stops => ?_
    obtain ⟨t, rfl, isNumber⟩ := List.map_eq_singleton_iff.mp printed
    obtain ⟨kind, lexeme⟩ : t.kind = .number ∧ t.lexeme = n.lexeme := Word.mk.inj isNumber
    refine signed_of_primary (by simp [kind]) (by simp [kind]) ?_ stops
    rw [primary, kind]
    simp [lexeme, n.reads, map]
  | text s =>
    refine .of_signed rfl fun {room tokens} _ printed rest stops => ?_
    obtain ⟨t, rfl, isText⟩ := List.map_eq_singleton_iff.mp printed
    obtain ⟨kind, lexeme⟩ : t.kind = .string ∧ t.lexeme = "\"" ++ s ++ "\"" := Word.mk.inj isText
    refine signed_of_primary (by simp [kind]) (by simp [kind]) ?_ stops
    rw [primary, kind]
    simp [content_of_quoted lexeme, map]
  | boolean b =>
    refine .of_signed rfl fun {room tokens} _ printed rest stops => ?_
    obtain ⟨t, rfl, isBoolean⟩ := List.map_eq_singleton_iff.mp printed
    obtain ⟨kind, lexeme⟩ : t.kind = .boolean ∧ t.lexeme = if b then "true" else "false" := Word.mk.inj isBoolean
    refine signed_of_primary (by simp [kind]) (by simp [kind]) ?_ stops
    rw [primary, kind]
    cases b <;> simp [lexeme, map]
  | name n =>
    refine .of_signed rfl fun {room tokens} _ printed rest stops => ?_
    obtain ⟨t, rfl, isName⟩ := List.map_eq_singleton_iff.mp printed
    obtain ⟨kind, lexeme⟩ : t.kind = .identifier ∧ t.lexeme = n := Word.mk.inj isName
    rw [List.singleton_append, signed_of_name kind, lexeme]
    exact suffixes_of_stops stops
  | call function arguments ih => exact reparses_call bounds fun e mem => ih e mem (printable.2.of_mem mem)
  | index series position ih => exact reparses_index bounds (ih printable.2)
  | binary left op right ihLeft ihRight =>
    obtain ⟨form, leftPrintable, rightPrintable⟩ := id printable
    cases isTier : op.tier? with
    | some tier => exact reparses_chain bounds isTier (ihLeft leftPrintable) (ihRight rightPrintable)
    | none =>
      obtain rfl | ⟨symbol, rfl⟩ := Operator.tier?_eq_none_iff.mp isTier
      · exact reparses_sign bounds form (ihRight rightPrintable)
      · exact form.elim

end Expr

end IndicatorScript
