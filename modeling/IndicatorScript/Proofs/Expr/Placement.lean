import IndicatorScript.Proofs.Expr.Reports
import IndicatorScript.Proofs.Token.Joining

/-!
# Tokens in another place

What the parser makes of tokens hardly depends on where they stand. A `Placement` puts them some lines further down, in
front of the end of their line, and under another limit. There the parser makes the same of them or fails on the same
token (`expression_placed`). Where the limit is another one, it may only here find them nested too deeply.
-/

namespace IndicatorScript

@[simp] theorem Token.content_moved (lines : Int) (t : Token) : (t.moved lines).content = t.content := rfl

/-- No line and no script ends with a token of this kind. -/
abbrev Token.Kind.IsInner (kind : Token.Kind) : Prop :=
  kind ≠ .endOfScript ∧ kind ≠ .newline ∧ kind ≠ .comment

structure Placement where
  bounds : Bounds
  /-- What parsing goes by in the other place. -/
  elsewhere : Bounds
  lines : Int
  behind : List Token
  ends : ∀ t ∈ behind.head?, t.kind = .newline ∨ t.kind = .comment

namespace Placement

variable (place : Placement)

def tokens (tokens : List Token) : List Token := tokens.map (Token.moved place.lines) ++ place.behind

@[simp] theorem tokens_nil : place.tokens [] = place.behind := rfl

@[simp] theorem tokens_cons (t : Token) (rest : List Token) :
    place.tokens (t :: rest) = t.moved place.lines :: place.tokens rest := rfl

theorem length_tokens (tokens : List Token) : (place.tokens tokens).length = tokens.length + place.behind.length := by
  rw [Placement.tokens, List.length_append, List.length_map]

theorem tokens_of_unmoved (unmoved : place.lines = 0) (tokens : List Token) :
    place.tokens tokens = tokens ++ place.behind := by
  simp [Placement.tokens, unmoved, show Token.moved 0 = id from funext Token.moved_zero]

theorem behind_cases :
    place.behind = [] ∨ ∃ t rest, place.behind = t :: rest ∧ (t.kind = .newline ∨ t.kind = .comment) := by
  have ends := place.ends
  cases behind : place.behind with
  | nil => exact .inl rfl
  | cons t rest =>
    rw [behind] at ends
    exact .inr ⟨t, rest, rfl, ends t rfl⟩

/-- Two faults on the same token. Where that is the end of the tokens, they agree as far as what stands there does. -/
structure SameFault (e e' : SyntaxError) : Prop where
  whole : place.elsewhere.next place.behind = (place.bounds.next []).moved place.lines → e' = e.moved place.lines
  line : (place.elsewhere.next place.behind).line = place.bounds.lastLine + place.lines →
    e'.line = e.line + place.lines

/-- There is room for so many tokens in both places, or at least as much in the other one, and exactly as much if the
limit is the same. -/
def Fits (count room room' : Nat) : Prop :=
  count ≤ room ∧ count ≤ room' ∨ room ≤ room' ∧ (place.bounds.limit = place.elsewhere.limit → room = room')

section Fits

variable {place} {count room room' : Nat}

theorem Fits.mono (fits : place.Fits count room room') {fewer : Nat} (le : fewer ≤ count) :
    place.Fits fewer room room' :=
  fits.imp_left fun enough => ⟨Nat.le_trans le enough.1, Nat.le_trans le enough.2⟩

theorem Fits.of_suffix {tokens rest : List Token} (fits : place.Fits tokens.length room room')
    (suffix : rest <:+ tokens) : place.Fits rest.length room room' :=
  fits.mono suffix.length_le

theorem Fits.succ (fits : place.Fits (count + 1) (room + 1) room') :
    ∃ room'', room' = room'' + 1 ∧ place.Fits count room room'' := by
  obtain ⟨room'', rfl⟩ : ∃ room'', room' = room'' + 1 := by
    refine ⟨room' - 1, ?_⟩
    rcases fits with enough | more <;> omega
  refine ⟨room'', rfl, fits.imp (fun enough => ⟨?_, ?_⟩) fun more => ⟨?_, fun same => ?_⟩⟩
  · exact Nat.le_of_succ_le_succ enough.1
  · exact Nat.le_of_succ_le_succ enough.2
  · exact Nat.le_of_succ_le_succ more.1
  · exact Nat.succ.inj (more.2 same)

end Fits

variable {β β' γ γ' : Type}

/-- What two parsers make of tokens in the two places. -/
inductive Agrees (p : β → β' → Prop) (tokens : List Token) :
    Except SyntaxError (β × List Token) → Except SyntaxError (β' × List Token) → Prop where
  | ok {x : β} {y : β'} {rest : List Token} (holds : p x y) (left : rest <:+ tokens) :
      Agrees p tokens (.ok (x, rest)) (.ok (y, place.tokens rest))
  | error {e e' : SyntaxError} (same : place.SameFault e e') : Agrees p tokens (.error e) (.error e')
  | tooDeep {line : Int} {result : Except SyntaxError (β' × List Token)}
      (other : place.bounds.limit ≠ place.elsewhere.limit) :
      Agrees p tokens (.error ⟨.tooDeep place.bounds.limit, line⟩) result

section Agrees

variable {place} {p : β → β' → Prop} {q : γ → γ' → Prop} {tokens rest : List Token} {t : Token}
  {result : Except SyntaxError (β × List Token)} {result' : Except SyntaxError (β' × List Token)}

theorem Agrees.of_suffix (agrees : place.Agrees p rest result result') (suffix : rest <:+ tokens) :
    place.Agrees p tokens result result' := by
  cases agrees with
  | ok holds left => exact .ok holds (left.trans suffix)
  | error same => exact .error same
  | tooDeep other => exact .tooDeep other

theorem Agrees.cons (agrees : place.Agrees p rest result result') : place.Agrees p (t :: rest) result result' :=
  agrees.of_suffix (List.suffix_cons t rest)

theorem Agrees.bind {next : β × List Token → Except SyntaxError (γ × List Token)}
    {next' : β' × List Token → Except SyntaxError (γ' × List Token)} (first : place.Agrees p tokens result result')
    (second : ∀ x y rest, p x y → rest <:+ tokens →
      place.Agrees q rest (next (x, rest)) (next' (y, place.tokens rest))) :
    place.Agrees q tokens (result >>= next) (result' >>= next') := by
  cases first with
  | ok holds left => exact (second _ _ _ holds left).of_suffix left
  | error same => exact .error same
  | tooDeep other => exact .tooDeep other

theorem Agrees.mono {p' : β → β' → Prop} (agrees : place.Agrees p tokens result result')
    (weaker : ∀ x y, p x y → p' x y) : place.Agrees p' tokens result result' := by
  cases agrees with
  | ok holds left => exact .ok (weaker _ _ holds) left
  | error same => exact .error same
  | tooDeep other => exact .tooDeep other

theorem Agrees.given {x : β} {y : β'} (holds : p x y) :
    place.Agrees p tokens (.ok (x, tokens)) (.ok (y, place.tokens tokens)) :=
  .ok holds (List.suffix_refl tokens)

theorem Agrees.errorAt {cause : SyntaxError.Cause} (kept : cause.moved place.lines = cause) (t : Token) :
    place.Agrees p tokens (.error ⟨cause, t.line⟩) (.error ⟨cause, (t.moved place.lines).line⟩) :=
  .error ⟨fun _ => by rw [SyntaxError.moved, kept]; rfl, fun _ => rfl⟩

/-- A failure on the first token, or on the end where there is none. -/
theorem Agrees.fail (cause : Token → SyntaxError.Cause)
    (kept : ∀ t, (cause t).moved place.lines = cause (t.moved place.lines)) :
    place.Agrees p tokens (place.bounds.fail (cause (place.bounds.next tokens)) tokens)
      (place.elsewhere.fail (cause (place.elsewhere.next (place.tokens tokens))) (place.tokens tokens)) := by
  cases tokens with
  | nil =>
    refine .error ⟨fun same => ?_, fun same => same⟩
    rw [tokens_nil, same, SyntaxError.moved, kept]
    rfl
  | cons t rest =>
    refine .error ⟨fun _ => ?_, fun _ => rfl⟩
    rw [SyntaxError.moved, kept]
    rfl

theorem Agrees.deep {count room' : Nat} (fits : place.Fits (count + 1) 0 room')
    (same : room' = 0 → result' = place.elsewhere.tooDeep (place.tokens tokens)) :
    place.Agrees p tokens (place.bounds.tooDeep tokens) result' := by
  rcases fits with enough | ⟨-, exact⟩
  · exact absurd enough.1 (Nat.not_succ_le_zero count)
  · by_cases limits : place.bounds.limit = place.elsewhere.limit
    · rw [same (exact limits).symm, Bounds.tooDeep, Bounds.tooDeep, limits]
      exact .fail (fun _ => .tooDeep place.elsewhere.limit) fun _ => rfl
    · exact .tooDeep limits

theorem next_kind (tokens : List Token) {kind : Token.Kind} (inner : kind.IsInner) :
    (place.elsewhere.next (place.tokens tokens)).kind = kind ↔ (place.bounds.next tokens).kind = kind := by
  cases tokens with
  | cons t rest => rfl
  | nil =>
    refine ⟨fun same => ?_, fun same => absurd same.symm inner.1⟩
    rw [tokens_nil] at same
    rcases place.behind_cases with behind | ⟨t, rest, behind, ends⟩ <;> rw [behind] at same
    · exact absurd same.symm inner.1
    · obtain rfl : t.kind = kind := same
      exact ends.elim (absurd · inner.2.1) (absurd · inner.2.2)

theorem Agrees.expect (kind : Token.Kind) (what : Expectation) (inner : kind.IsInner) :
    place.Agrees (fun t t' => t' = t.moved place.lines) tokens (place.bounds.expect kind what tokens)
      (place.elsewhere.expect kind what (place.tokens tokens)) := by
  have failing : place.Agrees (fun t t' => t' = Token.moved place.lines t) tokens
      (place.bounds.unexpected what tokens) (place.elsewhere.unexpected what (place.tokens tokens)) :=
    .fail (.expected what) fun _ => rfl
  have kinds := place.next_kind tokens inner
  cases tokens with
  | nil =>
    have other : place.elsewhere.expect kind what place.behind = place.elsewhere.unexpected what place.behind := by
      cases behind : place.behind with
      | nil => rfl
      | cons t rest =>
        rw [tokens_nil, behind] at kinds
        exact if_neg fun same => inner.1 (kinds.mp same).symm
    rw [tokens_nil, other]
    exact failing
  | cons t rest =>
    simp only [Bounds.expect, tokens_cons]
    by_cases same : t.kind = kind
    · have same' : (t.moved place.lines).kind = kind := same
      rw [if_pos same, if_pos same']
      exact .cons (.given rfl)
    · have other : (t.moved place.lines).kind ≠ kind := same
      rw [if_neg same, if_neg other]
      exact failing

theorem Agrees.followed (part : place.Agrees p tokens result result') (kind : Token.Kind) (what : Expectation)
    (inner : kind.IsInner) :
    place.Agrees p tokens (Expr.followed place.bounds kind what result)
      (Expr.followed place.elsewhere kind what result') :=
  part.bind fun _ _ _ holds _ => (Agrees.expect kind what inner).bind fun _ _ _ _ _ => .given holds

end Agrees

/-! ## Where the tokens end -/

variable {α : Type} [Literal α]

theorem chain_behind (tier : Tier) (room : Nat) (left : Expr α) :
    Expr.chain place.elsewhere tier room left place.behind = .ok (left, place.behind) := by
  rcases place.behind_cases with behind | ⟨t, rest, behind, ends⟩ <;> rw [behind, Expr.chain]
  have other : tier.operator? t = none := if_neg (by rcases ends with kind | kind <;> simp [kind, Tier.ofKind?])
  rw [other]

theorem signed_behind (room : Nat) :
    Expr.signed (α := α) place.elsewhere room place.behind = Expr.suffixed place.elsewhere room place.behind := by
  rcases place.behind_cases with behind | ⟨t, rest, behind, ends⟩ <;> rw [behind, Expr.signed.eq_def]
  dsimp only
  rw [if_neg (by rcases ends with kind | kind <;> simp [kind])]

theorem suffixes_behind (room : Nat) (e : Expr α) (name : Option String) :
    Expr.suffixes place.elsewhere room e name place.behind = .ok (e, place.behind) := by
  rcases place.behind_cases with behind | ⟨t, rest, behind, ends⟩ <;> rw [behind, Expr.suffixes]
  rw [if_neg (by rcases ends with kind | kind <;> simp [kind]), if_neg (by rcases ends with kind | kind <;> simp [kind])]

theorem primary_behind (room : Nat) :
    Expr.primary (α := α) place.elsewhere room place.behind =
      place.elsewhere.fail (.unexpectedToken (place.elsewhere.next place.behind)) place.behind := by
  rcases place.behind_cases with behind | ⟨t, rest, behind, kind | kind⟩ <;> rw [behind, Expr.primary]
  all_goals
    rw [kind]
    rfl

theorem separated_placed {β : Type} {item item' : Parser β} (count : Nat)
    (each : ∀ tokens, tokens.length ≤ count → place.Agrees Eq tokens (item tokens) (item' (place.tokens tokens)))
    (tokens : List Token) (short : tokens.length ≤ count) :
    place.Agrees Eq tokens (separated item tokens) (separated item' (place.tokens tokens)) := by
  induction tokens using separated.induct with
  | _ tokens ih =>
    rw [separated, separated.eq_def item']
    refine (each tokens short).bind fun x y rest same left => ?_
    obtain rfl : x = y := same
    cases rest with
    | nil =>
      have given : place.Agrees Eq [] (.ok ([x], [])) (.ok ([x], place.behind)) := .given rfl
      rw [tokens_nil]
      rcases place.behind_cases with behind | ⟨t, rest, behind, ends⟩ <;> rw [behind] at given ⊢
      · exact given
      · dsimp only
        rw [if_neg (by rcases ends with kind | kind <;> simp [kind])]
        exact given
    | cons t after =>
      have shorter : after.length < tokens.length := Nat.lt_of_lt_of_le (Nat.lt_succ_self _) left.length_le
      have shorter' : (place.tokens after).length < (place.tokens tokens).length := by
        rw [length_tokens, length_tokens]
        omega
      simp only [tokens_cons]
      by_cases comma : t.kind = .comma
      · have comma' : (t.moved place.lines).kind = .comma := comma
        rw [if_pos ⟨comma, shorter⟩, if_pos ⟨comma', shorter'⟩]
        refine .cons ((ih t after ⟨comma, shorter⟩ (by omega)).bind fun xs ys rest same _ => ?_)
        obtain rfl : xs = ys := same
        exact .given rfl
      · have other : (t.moved place.lines).kind ≠ .comma := comma
        rw [if_neg fun both => comma both.1, if_neg fun both => other both.1]
        exact .given rfl

/-- A parser with room for so many tokens makes the same of them in the other place. -/
abbrev Keeps {β : Type} (needed room : Nat) (tokens : List Token) (result : Except SyntaxError (β × List Token))
    (parser : Nat → Parser β) : Prop :=
  ∀ room', place.Fits needed room room' → place.Agrees Eq tokens result (parser room' (place.tokens tokens))

theorem leaf_moved {t : Token} {e : Expr α} (leaf : Expr.Leaf t e) : Expr.Leaf (t.moved place.lines) e := by
  cases leaf with
  | boolean kind => exact .boolean kind
  | number kind reads => exact .number kind reads
  | text kind => exact .text kind
  | name kind => exact .name kind

abbrev keeping (α : Type) [Literal α] : Expr.Motive α where
  expression room tokens parsed := place.Keeps (tokens.length + 1) room tokens parsed (Expr.expression place.elsewhere)
  chained tier room tokens parsed := place.Keeps tokens.length room tokens parsed (Expr.chained place.elsewhere tier)
  chain tier room left tokens parsed :=
    place.Keeps tokens.length room tokens parsed fun room' => Expr.chain place.elsewhere tier room' left
  operand tier room tokens parsed := place.Keeps tokens.length room tokens parsed (Expr.operand place.elsewhere tier)
  signed room tokens parsed := place.Keeps tokens.length room tokens parsed (Expr.signed place.elsewhere)
  suffixed room tokens parsed := place.Keeps tokens.length room tokens parsed (Expr.suffixed place.elsewhere)
  suffixes room e name tokens parsed :=
    place.Keeps tokens.length room tokens parsed fun room' => Expr.suffixes place.elsewhere room' e name
  arguments room tokens parsed := place.Keeps (tokens.length + 1) room tokens parsed (Expr.arguments place.elsewhere)
  primary room tokens parsed := place.Keeps tokens.length room tokens parsed (Expr.primary place.elsewhere)

theorem keeping_productions : (place.keeping α).Productions place.bounds := by
  constructor
  all_goals dsimp only
  case noRoom =>
    intro tokens room' fits
    refine .deep fits fun none => ?_
    rw [none, Expr.expression]
  case whole =>
    intro room tokens _ inside room' fits
    rcases fits.succ with ⟨below, rfl, enough⟩
    rw [Expr.expression]
    exact inside below enough
  case chained =>
    intro tier room tokens _ _ first further room' fits
    rw [Expr.chained]
    refine (first room' fits).bind fun x y rest same left => ?_
    obtain rfl : x = y := same
    exact further x rest room' (fits.of_suffix left)
  case chainNil =>
    intro tier room left room' fits
    dsimp only
    rw [tokens_nil, chain_behind]
    exact .given rfl
  case chainEnds =>
    intro tier t room left rest other room' fits
    dsimp only
    rw [tokens_cons, Expr.chain, show tier.operator? (t.moved place.lines) = none from other]
    exact .given rfl
  case chainTooDeep =>
    intro tier t op left rest isOperator room' fits
    dsimp only
    rw [tokens_cons, Expr.chain, show tier.operator? (t.moved place.lines) = some op from isOperator]
    refine .cons (.deep fits fun none => ?_)
    rw [none]
  case chainGoesOn =>
    intro tier room left t rest op _ _ isOperator operand further room' fits
    rcases fits.succ with ⟨below, rfl, enough⟩
    dsimp only
    rw [tokens_cons, Expr.chain, show tier.operator? (t.moved place.lines) = some op from isOperator]
    refine .cons ((operand below enough).bind fun x y rest same left => ?_)
    obtain rfl : x = y := same
    exact further x rest below (enough.of_suffix left)
  case tighter =>
    intro tier next room tokens _ isNext chain room' fits
    rw [Expr.operand_of_next isNext]
    exact chain room' fits
  case tightest =>
    intro tier room tokens _ tightest signed room' fits
    rw [Expr.operand_of_tightest tightest]
    exact signed room' fits
  case signNil =>
    intro room _ suffixed room' fits
    rw [tokens_nil, signed_behind]
    exact suffixed room' fits
  case signTooDeep =>
    intro t rest isSign room' fits
    have isSign' : (t.moved place.lines).kind = .bang ∨ (t.moved place.lines).kind = .minus := isSign
    refine .cons (.deep fits fun none => ?_)
    rw [none, tokens_cons, Expr.signed_of_sign_zero isSign']
  case sign =>
    intro room t rest _ isSign operand room' fits
    rcases fits.succ with ⟨below, rfl, enough⟩
    have isSign' : (t.moved place.lines).kind = .bang ∨ (t.moved place.lines).kind = .minus := isSign
    rw [tokens_cons, Expr.signed_of_sign isSign']
    refine .cons ((operand below enough).bind fun x y rest same left => ?_)
    obtain rfl : x = y := same
    exact .given rfl
  case unsigned =>
    intro room t rest _ noSign suffixed room' fits
    have noSign' : ¬ ((t.moved place.lines).kind = .bang ∨ (t.moved place.lines).kind = .minus) := noSign
    rw [tokens_cons, Expr.signed_of_noSign noSign']
    exact suffixed room' fits
  case suffixed =>
    intro room tokens _ _ first further room' fits
    rw [Expr.suffixed]
    refine (first room' fits).bind fun x y rest same left => ?_
    obtain rfl : x = y := same
    exact further x rest room' (fits.of_suffix left)
  case suffixNil =>
    intro room e name room' fits
    dsimp only
    rw [tokens_nil, suffixes_behind]
    exact .given rfl
  case suffixEnds =>
    intro t room e name rest noCall noPosition room' fits
    have noCall' : (t.moved place.lines).kind ≠ .leftParen := noCall
    have noPosition' : (t.moved place.lines).kind ≠ .leftBracket := noPosition
    dsimp only
    rw [tokens_cons, Expr.suffixes, if_neg noCall', if_neg noPosition']
    exact .given rfl
  case call =>
    intro room function t rest _ _ e opens inside further room' fits
    have opens' : (t.moved place.lines).kind = .leftParen := opens
    have within : rest <:+ t :: rest := List.suffix_cons t rest
    dsimp only
    rw [tokens_cons, Expr.suffixes, if_pos opens']
    refine .cons ((inside room' fits).bind fun x y after same left => ?_)
    obtain rfl : x = y := same
    exact further x after room' (fits.of_suffix (left.trans within))
  case notCallable =>
    intro room t rest _ e opens inside room' fits
    have opens' : (t.moved place.lines).kind = .leftParen := opens
    dsimp only
    rw [tokens_cons, Expr.suffixes, if_pos opens']
    exact .cons ((inside room' fits).bind fun _ _ _ _ _ => .errorAt rfl t)
  case index =>
    intro room series t rest _ e _ noCall opens inside further room' fits
    have noCall' : (t.moved place.lines).kind ≠ .leftParen := noCall
    have opens' : (t.moved place.lines).kind = .leftBracket := opens
    have within : rest <:+ t :: rest := List.suffix_cons t rest
    dsimp only
    rw [tokens_cons, Expr.suffixes, if_neg noCall', if_pos opens']
    refine .cons ((inside room' fits).bind fun x y after same left => ?_)
    obtain rfl : x = y := same
    refine (Agrees.expect .rightBracket .bracketAfterIndex (by decide)).bind fun _ _ after' _ left' => ?_
    exact further x after' room' (fits.of_suffix ((left'.trans left).trans within))
  case notIndexable =>
    intro room t rest _ e noCall opens inside room' fits
    have noCall' : (t.moved place.lines).kind ≠ .leftParen := noCall
    have opens' : (t.moved place.lines).kind = .leftBracket := opens
    dsimp only
    rw [tokens_cons, Expr.suffixes, if_neg noCall', if_pos opens']
    refine .cons ((inside room' fits).bind fun _ _ _ _ _ => ?_)
    exact (Agrees.expect .rightBracket .bracketAfterIndex (by decide)).bind fun _ _ _ _ _ => .errorAt rfl t
  case noArguments =>
    intro tokens room closes room' fits
    have closes' := (place.next_kind tokens (by decide)).mpr closes
    rw [Expr.arguments, if_pos closes']
    exact Agrees.followed (.given rfl) .rightParen .parenAfterArguments (by decide)
  case arguments =>
    intro room tokens opens each room' fits
    have opens' := mt (place.next_kind tokens (by decide)).mp opens
    rw [Expr.arguments, if_neg opens']
    refine (separated_placed place tokens.length (fun tokens short => ?_) tokens (Nat.le_refl _)).followed
      .rightParen .parenAfterArguments (by decide)
    exact each tokens room' (fits.mono (Nat.succ_le_succ short))
  case primaryNil =>
    intro room room' fits
    rw [tokens_nil, primary_behind]
    exact .fail .unexpectedToken fun _ => rfl
  case leaf =>
    intro t e room rest leaf room' fits
    rw [tokens_cons, Expr.primary_of_leaf (place.leaf_moved leaf)]
    exact .cons (.given rfl)
  case unreadable =>
    intro t room rest isNumber unread room' fits
    have isNumber' : (t.moved place.lines).kind = .number := isNumber
    rw [tokens_cons, Expr.primary_of_unreadable isNumber' unread]
    exact .errorAt rfl t
  case parenthesised =>
    intro room t rest _ opens inside room' fits
    rw [tokens_cons, Expr.primary, show (t.moved place.lines).kind = .leftParen from opens]
    exact .cons ((inside room' fits).followed .rightParen .parenAfterExpression (by decide))
  case noStart =>
    intro t room rest noStart room' fits
    have noStart' : Expr.NoStart (t.moved place.lines) :=
      ⟨noStart.boolean, noStart.number, noStart.text, noStart.name, noStart.opening⟩
    rw [tokens_cons, Expr.primary_of_noStart noStart']
    exact .error ⟨fun _ => rfl, fun _ => rfl⟩

theorem expression_placed (room : Nat) (tokens : List Token) :
    place.Keeps (tokens.length + 1) room tokens (Expr.expression (α := α) place.bounds room tokens)
      (Expr.expression place.elsewhere) :=
  (Expr.Motive.of_productions place.keeping_productions).expression room tokens

end Placement

end IndicatorScript
