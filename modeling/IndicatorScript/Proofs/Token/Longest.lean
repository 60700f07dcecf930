import Mathlib.Data.List.TakeWhile
import IndicatorScript.Proofs.Token.Pieces

/-!
# Longest lexemes

What stands at the front of a text, said without the lexer: the token whose lexeme is the longest of those, of any kind,
that the text begins with (`front_eq_token_iff`). Where the text begins with none and with no blank, it cannot be read
(`unreadable_iff`).
-/

namespace IndicatorScript.Token

/-- The text begins with this lexeme, and with no longer one of any kind. -/
structure Longest (text : List Char) (kind : Kind) (lexeme : List Char) : Prop where
  spells : kind.Spells lexeme
  begins : lexeme <+: text
  longest : ∀ (other : Kind) (longer : List Char), other.Spells longer → longer <+: text →
    longer.length ≤ lexeme.length

theorem Longest.shortened {text shorter lexeme : List Char} {kind : Kind} (longest : Longest text kind lexeme)
    (begins : lexeme <+: shorter) (shortened : shorter <+: text) : Longest shorter kind lexeme where
  spells := longest.spells
  begins := begins
  longest other longer spells begins := longest.longest other longer spells (begins.trans shortened)

/-! ## The lexer reads as far as any lexeme goes -/

/-- A token is read, and no less than this lexeme. -/
def ReadsAtLeast (lexeme : List Char) (read : Front) : Prop :=
  ∃ kind longer rest, read = .token kind longer rest ∧ lexeme.length ≤ longer.length

theorem length_le_number {lexeme : List Char} (numeral : IsNumeral lexeme) (rest : List Char) :
    lexeme.length ≤ (number (lexeme ++ rest)).1.length := by
  obtain ⟨whole, fraction, ⟨-, digits⟩, fractionDigits, ⟨rfl, -⟩ | ⟨rfl, nonempty⟩⟩ := numeral
  · unfold number
    rw [List.takeWhile_append_of_pos digits, List.dropWhile_append_of_pos digits]
    split
    · split <;> simp
    · simp
  · obtain ⟨d, fraction, rfl⟩ := List.exists_cons_of_ne_nil nonempty
    have point : ∀ c ∈ ('.' :: d :: fraction ++ rest).head?, isDigit c = false := by
      intro c hc
      cases hc
      decide
    have digit : isDigit d = true := fractionDigits d List.mem_cons_self
    have further : ∀ c ∈ fraction, isDigit c := fun c hc => fractionDigits c (List.mem_cons_of_mem d hc)
    unfold number
    rw [List.append_assoc, takeWhile_append_of_stops digits point, dropWhile_append_of_stops digits point]
    simp [digit, List.takeWhile_append_of_pos further]

theorem readsAtLeast_word {c : Char} {body : List Char} (start : isNameStart c = true)
    (chars : ∀ d ∈ body, isNameChar d) (rest : List Char) : ReadsAtLeast (c :: body) (front c (body ++ rest)) := by
  rw [front_of_nameChar _ (by simp [isNameChar, start]), isDigit_eq_false_of_isNameStart start]
  refine ⟨_, _, _, rfl, ?_⟩
  rw [List.takeWhile_append_of_pos chars]
  simp

theorem readsAtLeast_comment {content : List Char} (closed : '\n' ∉ content) (rest : List Char) :
    ReadsAtLeast ('/' :: '/' :: content) (front '/' ('/' :: content ++ rest)) := by
  have inside : ∀ d ∈ '/' :: content, decide (d ≠ '\n') = true := by
    intro d mem
    refine decide_eq_true ?_
    rintro rfl
    simp [closed] at mem
  refine ⟨.comment, _, _, rfl, ?_⟩
  rw [List.takeWhile_append_of_pos inside]
  simp

theorem readsAtLeast_of_spells {kind : Kind} {c : Char} {body : List Char} (spells : kind.Spells (c :: body))
    (rest : List Char) : ReadsAtLeast (c :: body) (front c (body ++ rest)) := by
  by_cases ends : kind.Ends rest
  · exact ⟨kind, _, rest, front_of_spells spells ends, Nat.le_refl _⟩
  obtain ⟨d, after, rfl, goesOn⟩ : ∃ d after, rest = d :: after ∧ kind.goesOn d = true := by
    cases rest with
    | nil => exact absurd kind.ends_nil ends
    | cons d after => exact ⟨d, after, rfl, by simpa [Kind.Ends] using ends⟩
  cases kind with
  | bang | equal | greater | less =>
    obtain ⟨rfl, rfl⟩ := List.cons.inj spells
    obtain rfl : d = '=' := by simpa [Kind.goesOn] using goesOn
    exact ⟨_, _, _, rfl, by simp⟩
  | slash =>
    obtain ⟨rfl, rfl⟩ := List.cons.inj spells
    obtain rfl : d = '/' := by simpa [Kind.goesOn] using goesOn
    exact ⟨_, _, _, rfl, by simp⟩
  | number =>
    rw [front_of_digit _ spells.isDigit_head]
    exact ⟨_, _, _, rfl, length_le_number spells _⟩
  | comment =>
    obtain ⟨content, closed, same⟩ := spells
    obtain ⟨rfl, rfl⟩ := List.cons.inj same
    exact readsAtLeast_comment closed _
  | and | or =>
    obtain same | same := spells
    · obtain ⟨rfl, rfl⟩ := List.cons.inj same
      exact readsAtLeast_word rfl (List.all_eq_true.mp rfl) _
    · obtain ⟨rfl, rfl⟩ := List.cons.inj same
      exact ⟨_, _, _, rfl, Nat.le_refl _⟩
  | boolean =>
    obtain same | same := spells
    all_goals
      obtain ⟨rfl, rfl⟩ := List.cons.inj same
      exact readsAtLeast_word rfl (List.all_eq_true.mp rfl) _
  | identifier =>
    obtain ⟨e, chars, same, start, nameChars, -⟩ := spells
    obtain ⟨rfl, rfl⟩ := List.cons.inj same
    exact readsAtLeast_word start nameChars _
  | _ => cases goesOn

/-! ## What is read is the longest lexeme -/

theorem Kind.Spells.unique {kind other : Kind} {lexeme : List Char} (spells : kind.Spells lexeme)
    (spells' : other.Spells lexeme) : kind = other := by
  obtain ⟨c, body, rfl⟩ := List.exists_cons_of_ne_nil spells.ne_nil
  have read := front_of_spells spells kind.ends_nil
  have read' := front_of_spells spells' other.ends_nil
  exact (Front.token.inj (read.symm.trans read')).1

section Front

variable {c : Char} {rest lexeme after : List Char} {kind : Kind}

theorem longest_of_front (read : front c rest = .token kind lexeme after) : Longest (c :: rest) kind lexeme where
  spells := front_spells read
  begins := ⟨after, front_append read⟩
  longest other longer spells begins := by
    obtain ⟨d, body, rfl⟩ := List.exists_cons_of_ne_nil spells.ne_nil
    obtain ⟨more, same⟩ := begins
    obtain ⟨rfl, rfl⟩ := List.cons.inj same
    obtain ⟨kind', lexeme', after', read', covers⟩ := readsAtLeast_of_spells spells more
    obtain ⟨-, rfl, -⟩ := Front.token.inj (read.symm.trans read')
    exact covers

theorem front_of_longest (longest : Longest (c :: rest) kind lexeme) (whole : lexeme ++ after = c :: rest) :
    front c rest = .token kind lexeme after := by
  obtain ⟨d, body, rfl⟩ := List.exists_cons_of_ne_nil longest.spells.ne_nil
  obtain ⟨rfl, rfl⟩ : d = c ∧ body ++ after = rest := List.cons.inj whole
  obtain ⟨kind', lexeme', after', read, covers⟩ := readsAtLeast_of_spells longest.spells after
  have whole' := front_append read
  have shorter := longest.longest kind' lexeme' (front_spells read) ⟨after', whole'⟩
  obtain ⟨same, rfl⟩ := List.append_inj whole' (Nat.le_antisymm shorter covers)
  subst same
  rw [read, (front_spells read).unique longest.spells]

theorem front_eq_token_iff :
    front c rest = .token kind lexeme after ↔ Longest (c :: rest) kind lexeme ∧ lexeme ++ after = c :: rest :=
  ⟨fun read => ⟨longest_of_front read, front_append read⟩, fun longest => front_of_longest longest.1 longest.2⟩

end Front

/-! ## What cannot be read -/

/-- Some lexeme begins with this character. -/
def Begins (c : Char) : Prop := ∃ (kind : Kind) (body : List Char), kind.Spells (c :: body)

/-- A text at whose front no token and no blank stands, and what is reported of it. -/
inductive Unreadable : List Char → SyntaxError.Cause → Prop where
  | unknown {c : Char} {rest : List Char} (solid : c ∉ blanks) (unknown : ¬ Begins c) :
      Unreadable (c :: rest) (.unexpectedCharacter c)
  | single {c : Char} {rest : List Char} (doubled : c = '&' ∨ c = '|') (single : rest.head? ≠ some c) :
      Unreadable (c :: rest) (.unexpectedCharacter c)
  | unclosed {rest : List Char} (unclosed : '"' ∉ rest) : Unreadable ('"' :: rest) .unterminatedString

def Front.cause? (c : Char) : Front → Option SyntaxError.Cause
  | .blank | .token .. => none
  | .unexpected => some (.unexpectedCharacter c)
  | .unterminated => some .unterminatedString

section Unreadable

variable {c : Char} {rest : List Char}

theorem front_of_mem_blanks (blank : c ∈ blanks) (rest : List Char) : front c rest = .blank := by
  refine if_pos ?_
  simpa [isBlank, blanks, or_assoc] using blank

theorem begins_of_front {kind : Kind} {lexeme after : List Char} (read : front c rest = .token kind lexeme after) :
    Begins c := by
  have spells := front_spells read
  obtain ⟨d, body, rfl⟩ := List.exists_cons_of_ne_nil spells.ne_nil
  obtain ⟨rfl, -⟩ := List.cons.inj (front_append read)
  exact ⟨kind, body, spells⟩

theorem begins_quote : Begins '"' := ⟨.string, ['"'], [], List.not_mem_nil, rfl⟩

/-- A character that is unexpected before one text is so before every text, but for those that are written twice. -/
theorem unexpected_cases (read : front c rest = .unexpected) :
    ((c = '&' ∨ c = '|') ∧ rest.head? ≠ some c) ∨ ∀ other, front c other = .unexpected := by
  unfold front at read
  split at read
  · cases read
  next solid =>
  split at read
  · cases read
  next noSingle =>
  split at read
  · split at read <;> cases read
  next noSlash =>
  split at read
  · split at read <;> cases read
  next noComparison =>
  split at read
  · next kind doubled =>
    have isDoubled : c = '&' ∨ c = '|' := by
      unfold doubledKind? at doubled
      split at doubled
      · exact .inl rfl
      · exact .inr rfl
      · cases doubled
    refine .inl ⟨isDoubled, ?_⟩
    split at read
    · split at read
      · cases read
      · next other => simpa using other
    · simp
  next noDoubled =>
  split at read
  · split at read <;> cases read
  next noQuote =>
  split at read
  · cases read
  next noDigit =>
  split at read
  · cases read
  next noStart =>
  right
  intro other
  simp [front, solid, noSlash, noQuote, noDigit, noStart]

theorem unclosed_of_front (read : front c rest = .unterminated) : c = '"' ∧ '"' ∉ rest := by
  unfold front at read
  split at read
  · cases read
  split at read
  · cases read
  split at read
  · split at read <;> cases read
  split at read
  · split at read <;> cases read
  split at read
  · split at read
    · split at read <;> cases read
    · cases read
  split at read
  · next isQuote =>
    split at read
    · cases read
    · next none =>
      exact ⟨isQuote, fun mem => by simpa using List.dropWhile_eq_nil_iff.mp none _ mem⟩
  split at read
  · cases read
  · split at read <;> cases read

theorem front_of_unclosed (unclosed : '"' ∉ rest) : front '"' rest = .unterminated := by
  have none : rest.dropWhile (· ≠ '"') = [] := by
    refine List.dropWhile_eq_nil_iff.mpr fun d mem => decide_eq_true ?_
    rintro rfl
    exact unclosed mem
  simp only [front, isBlank, singleKind?, comparisonKinds?, doubledKind?, none]
  rfl

theorem front_of_single (doubled : c = '&' ∨ c = '|') (single : rest.head? ≠ some c) :
    front c rest = .unexpected := by
  rcases doubled with rfl | rfl
  all_goals
    cases rest with
    | nil => rfl
    | cons d rest =>
      have other : d ≠ _ := fun same => single (congrArg some same)
      simp [front, isBlank, singleKind?, comparisonKinds?, doubledKind?, other]

theorem unreadable_iff {cause : SyntaxError.Cause} :
    Unreadable (c :: rest) cause ↔ (front c rest).cause? c = some cause := by
  constructor
  · intro unreadable
    cases unreadable with
    | unknown solid unknown =>
      cases read : front c rest with
      | blank => exact absurd (mem_blanks_of_isBlank (isBlank_of_front read)) solid
      | token kind lexeme after => exact absurd (begins_of_front read) unknown
      | unexpected => rfl
      | unterminated => exact absurd ((unclosed_of_front read).1 ▸ begins_quote) unknown
    | single doubled single => rw [front_of_single doubled single, Front.cause?]
    | unclosed unclosed => rw [front_of_unclosed unclosed, Front.cause?]
  · intro reported
    cases read : front c rest with
    | blank | token => simp [read, Front.cause?] at reported
    | unexpected =>
      obtain rfl : .unexpectedCharacter c = cause := by simpa [read, Front.cause?] using reported
      rcases unexpected_cases read with ⟨doubled, single⟩ | always
      · exact .single doubled single
      · refine .unknown (fun blank => ?_) ?_
        · rw [front_of_mem_blanks blank] at read
          cases read
        · rintro ⟨kind, body, spells⟩
          have begins := front_of_spells spells kind.ends_nil
          rw [always] at begins
          cases begins
    | unterminated =>
      obtain rfl : .unterminatedString = cause := by simpa [read, Front.cause?] using reported
      obtain ⟨rfl, unclosed⟩ := unclosed_of_front read
      exact .unclosed unclosed

end Unreadable

end IndicatorScript.Token
