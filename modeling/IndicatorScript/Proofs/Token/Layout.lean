import IndicatorScript.Token.Lexer

/-!
# Layouts of tokens

What it takes for a text to be written as given tokens, said without the lexer: each lexeme is spelled as its kind
demands, blanks may stand around it, and what follows it does not go on with it. `scan_of_layout` says that such a text
is read as exactly these tokens.
-/

namespace IndicatorScript.Token

/-- A token without its line. -/
structure Word where
  kind : Kind
  lexeme : String
  deriving DecidableEq, Repr

def word (t : Token) : Word := ⟨t.kind, t.lexeme⟩

/-! ## Spellings -/

/-- Digits, and perhaps a point with more digits after it. -/
def IsNumeral (lexeme : List Char) : Prop :=
  ∃ whole fraction, (whole ≠ [] ∧ ∀ d ∈ whole, isDigit d) ∧ (∀ d ∈ fraction, isDigit d) ∧
    (lexeme = whole ∧ fraction = [] ∨ lexeme = whole ++ '.' :: fraction ∧ fraction ≠ [])

def IsName (lexeme : List Char) : Prop :=
  ∃ c rest, lexeme = c :: rest ∧ isNameStart c ∧ (∀ d ∈ rest, isNameChar d) ∧ wordKind lexeme = .identifier

instance (lexeme : List Char) : Decidable (IsName lexeme) :=
  match lexeme with
  | [] => .isFalse nofun
  | c :: rest =>
      decidable_of_iff
        (isNameStart c = true ∧ rest.all isNameChar = true ∧ wordKind (c :: rest) = .identifier)
        ⟨fun h => ⟨c, rest, rfl, h.1, List.all_eq_true.mp h.2.1, h.2.2⟩, fun ⟨_, _, same, h⟩ => by
          cases same
          exact ⟨h.1, List.all_eq_true.mpr h.2.1, h.2.2⟩⟩

def Kind.Spells : Kind → List Char → Prop
  | .leftParen, lexeme => lexeme = ['(']
  | .rightParen, lexeme => lexeme = [')']
  | .leftBracket, lexeme => lexeme = ['[']
  | .rightBracket, lexeme => lexeme = [']']
  | .comma, lexeme => lexeme = [',']
  | .plus, lexeme => lexeme = ['+']
  | .minus, lexeme => lexeme = ['-']
  | .star, lexeme => lexeme = ['*']
  | .slash, lexeme => lexeme = ['/']
  | .bang, lexeme => lexeme = ['!']
  | .bangEqual, lexeme => lexeme = ['!', '=']
  | .equal, lexeme => lexeme = ['=']
  | .equalEqual, lexeme => lexeme = ['=', '=']
  | .greater, lexeme => lexeme = ['>']
  | .greaterEqual, lexeme => lexeme = ['>', '=']
  | .less, lexeme => lexeme = ['<']
  | .lessEqual, lexeme => lexeme = ['<', '=']
  | .and, lexeme => lexeme = ['a', 'n', 'd'] ∨ lexeme = ['&', '&']
  | .or, lexeme => lexeme = ['o', 'r'] ∨ lexeme = ['|', '|']
  | .number, lexeme => IsNumeral lexeme
  | .string, lexeme => ∃ content, '"' ∉ content ∧ lexeme = '"' :: content ++ ['"']
  | .boolean, lexeme => lexeme = ['t', 'r', 'u', 'e'] ∨ lexeme = ['f', 'a', 'l', 's', 'e']
  | .identifier, lexeme => IsName lexeme
  | .newline, lexeme => lexeme = ['\n']
  | .comment, lexeme => ∃ content, '\n' ∉ content ∧ lexeme = '/' :: '/' :: content
  | .endOfScript, _ => False

/-- Whether a character right after a lexeme of this kind may belong to it. -/
def Kind.goesOn : Kind → Char → Bool
  | .bang, c | .equal, c | .greater, c | .less, c => c == '='
  | .slash, c => c == '/'
  | .number, c => isDigit c || c == '.'
  | .boolean, c | .identifier, c | .and, c | .or, c => isNameChar c
  | .comment, c => c != '\n'
  | _, _ => false

/-- What follows a lexeme of this kind does not go on with it. -/
def Kind.Ends (kind : Kind) (rest : List Char) : Prop := ∀ c ∈ rest.head?, kind.goesOn c = false

/-- A text, begun on the given line, that is written as these tokens, of which the last marks its end. -/
inductive Layout : Int → List Char → List Token → Prop where
  | done (line : Int) : Layout line [] [⟨.endOfScript, "", line⟩]
  | blank {line : Int} {c : Char} {text : List Char} {tokens : List Token} (blank : isBlank c = true)
      (layout : Layout line text tokens) : Layout line (c :: text) tokens
  | token {line : Int} {kind : Kind} {lexeme rest : List Char} {tokens : List Token} (spells : kind.Spells lexeme)
      (ends : kind.Ends rest) (layout : Layout (line + lexeme.count '\n') rest tokens) :
      Layout line (lexeme ++ rest) (⟨kind, String.ofList lexeme, line⟩ :: tokens)

/-! ## What stands at the front of a layout -/

theorem takeWhile_append_of_stops {p : Char → Bool} {lexeme rest : List Char} (all : ∀ d ∈ lexeme, p d)
    (stops : ∀ c ∈ rest.head?, p c = false) : (lexeme ++ rest).takeWhile p = lexeme := by
  rw [List.takeWhile_append_of_pos all]
  cases rest with
  | nil => simp
  | cons c rest => simp [stops c rfl]

theorem dropWhile_append_of_stops {p : Char → Bool} {lexeme rest : List Char} (all : ∀ d ∈ lexeme, p d)
    (stops : ∀ c ∈ rest.head?, p c = false) : (lexeme ++ rest).dropWhile p = rest := by
  rw [List.dropWhile_append_of_pos all]
  cases rest with
  | nil => simp
  | cons c rest => simp [stops c rfl]

theorem number_append_of_ends {lexeme rest : List Char} (numeral : IsNumeral lexeme) (ends : Kind.number.Ends rest) :
    number (lexeme ++ rest) = (lexeme, rest) := by
  obtain ⟨whole, fraction, ⟨-, digits⟩, fractionDigits, ⟨rfl, -⟩ | ⟨rfl, nonempty⟩⟩ := numeral
  · have stops : ∀ c ∈ rest.head?, isDigit c = false := fun c hc => by
      simpa [Kind.goesOn] using (Bool.or_eq_false_iff.mp (ends c hc)).1
    unfold number
    rw [takeWhile_append_of_stops digits stops, dropWhile_append_of_stops digits stops]
    split
    · next d after => exact absurd (ends '.' rfl) (by decide)
    · rfl
  · obtain ⟨d, fraction, rfl⟩ := List.exists_cons_of_ne_nil nonempty
    have stops : ∀ c ∈ rest.head?, isDigit c = false := fun c hc => by
      simpa [Kind.goesOn] using (Bool.or_eq_false_iff.mp (ends c hc)).1
    have point : ∀ c ∈ ('.' :: d :: fraction ++ rest).head?, isDigit c = false := by
      intro c hc
      cases hc
      decide
    have digit : isDigit d = true := fractionDigits d List.mem_cons_self
    have further : ∀ c ∈ fraction, isDigit c := fun c hc => fractionDigits c (List.mem_cons_of_mem d hc)
    unfold number
    rw [List.append_assoc, takeWhile_append_of_stops digits point, dropWhile_append_of_stops digits point]
    simp [digit, takeWhile_append_of_stops further stops, dropWhile_append_of_stops further stops]

theorem front_of_nameChar {c : Char} (rest : List Char) (nameChar : isNameChar c = true) :
    front c rest =
      if isDigit c then .token .number (number (c :: rest)).1 (number (c :: rest)).2
      else .token (wordKind (c :: rest.takeWhile isNameChar)) (c :: rest.takeWhile isNameChar)
        (rest.dropWhile isNameChar) := by
  have blank : isBlank c = false := by
    refine Bool.eq_false_iff.mpr fun h => ?_
    simp only [isBlank, Bool.or_eq_true, beq_iff_eq] at h
    obtain (rfl | rfl) | rfl := h <;> revert nameChar <;> decide
  have single : singleKind? c = none := by
    unfold singleKind?
    split <;> first | rfl | (revert nameChar; decide)
  have comparison : comparisonKinds? c = none := by
    unfold comparisonKinds?
    split <;> first | rfl | (revert nameChar; decide)
  have doubled : doubledKind? c = none := by
    unfold doubledKind?
    split <;> first | rfl | (revert nameChar; decide)
  have slash : c ≠ '/' := by
    rintro rfl
    revert nameChar
    decide
  have quote : c ≠ '"' := by
    rintro rfl
    revert nameChar
    decide
  unfold front
  simp only [blank, single, comparison, doubled, slash, quote, if_false, Bool.false_eq_true]
  by_cases digit : isDigit c
  · simp [digit]
  · have start : isNameStart c = true := by simpa [isNameChar, digit] using nameChar
    simp [digit, start]

theorem isDigit_eq_false_of_isNameStart {c : Char} (start : isNameStart c = true) : isDigit c = false := by
  simp only [isNameStart, Bool.or_eq_true, Bool.and_eq_true, decide_eq_true_eq, beq_iff_eq, Char.le_def,
    UInt32.le_iff_toNat_le] at start
  simp only [isDigit, Bool.and_eq_false_iff, decide_eq_false_iff_not, Char.le_def, UInt32.le_iff_toNat_le]
  obtain (⟨above, -⟩ | ⟨above, -⟩) | rfl := start
  · refine .inr fun below => ?_
    exact absurd (Nat.le_trans above below) (by decide)
  · refine .inr fun below => ?_
    exact absurd (Nat.le_trans above below) (by decide)
  · decide

theorem front_of_word {c : Char} {body rest : List Char} (start : isNameStart c = true)
    (chars : ∀ d ∈ body, isNameChar d) (stops : ∀ d ∈ rest.head?, isNameChar d = false) :
    front c (body ++ rest) = .token (wordKind (c :: body)) (c :: body) rest := by
  rw [front_of_nameChar _ (by simp [isNameChar, start]), isDigit_eq_false_of_isNameStart start,
    takeWhile_append_of_stops chars stops, dropWhile_append_of_stops chars stops]
  rfl

theorem IsNumeral.isDigit_head {c : Char} {body : List Char} (numeral : IsNumeral (c :: body)) : isDigit c = true := by
  obtain ⟨whole, fraction, ⟨nonempty, digits⟩, -, same⟩ := numeral
  obtain ⟨d, whole, rfl⟩ := List.exists_cons_of_ne_nil nonempty
  obtain ⟨same, -⟩ | ⟨same, -⟩ := same
  · exact (List.cons.inj same).1 ▸ digits d List.mem_cons_self
  · exact (List.cons.inj same).1 ▸ digits d List.mem_cons_self

theorem front_of_digit {c : Char} (rest : List Char) (digit : isDigit c = true) :
    front c rest = .token .number (number (c :: rest)).1 (number (c :: rest)).2 := by
  rw [front_of_nameChar _ (by simp [isNameChar, digit]), if_pos digit]

theorem front_of_numeral {c : Char} {body rest : List Char} (numeral : IsNumeral (c :: body))
    (ends : Kind.number.Ends rest) : front c (body ++ rest) = .token .number (c :: body) rest := by
  rw [front_of_digit _ numeral.isDigit_head, ← List.cons_append, number_append_of_ends numeral ends]

theorem front_of_quoted {content rest : List Char} (closed : '"' ∉ content) :
    front '"' (content ++ '"' :: rest) = .token .string ('"' :: content ++ ['"']) rest := by
  have inside : ∀ d ∈ content, decide (d ≠ '"') = true := by
    intro d mem
    refine decide_eq_true ?_
    rintro rfl
    exact closed mem
  have stops : ∀ d ∈ ('"' :: rest).head?, decide (d ≠ '"') = false := fun d hd => by
    cases hd
    rfl
  simp only [front, isBlank, singleKind?, comparisonKinds?, doubledKind?]
  rw [takeWhile_append_of_stops inside stops, dropWhile_append_of_stops inside stops]
  rfl

theorem front_of_comment {content rest : List Char} (closed : '\n' ∉ content) (ends : Kind.comment.Ends rest) :
    front '/' ('/' :: content ++ rest) = .token .comment ('/' :: '/' :: content) rest := by
  have inside : ∀ d ∈ '/' :: content, decide (d ≠ '\n') = true := by
    intro d mem
    obtain rfl | mem := List.mem_cons.mp mem
    · rfl
    · refine decide_eq_true ?_
      rintro rfl
      exact closed mem
  have stops : ∀ d ∈ rest.head?, decide (d ≠ '\n') = false := fun d hd => by
    simpa [Kind.goesOn] using ends d hd
  simp only [front, isBlank, singleKind?]
  rw [takeWhile_append_of_stops inside stops, dropWhile_append_of_stops inside stops]
  rfl

/-- The lexer stops exactly behind a lexeme that nothing goes on with. -/
theorem front_of_spells {kind : Kind} {c : Char} {body rest : List Char} (spells : kind.Spells (c :: body))
    (ends : kind.Ends rest) : front c (body ++ rest) = .token kind (c :: body) rest := by
  cases kind with
  | leftParen | rightParen | leftBracket | rightBracket | comma | plus | minus | star | newline =>
    obtain ⟨rfl, rfl⟩ := List.cons.inj spells
    rfl
  | bangEqual | equalEqual | greaterEqual | lessEqual =>
    obtain ⟨rfl, rfl⟩ := List.cons.inj spells
    rfl
  | slash =>
    obtain ⟨rfl, rfl⟩ := List.cons.inj spells
    have other : rest.head? ≠ some '/' := fun h => absurd (ends '/' h) (by decide)
    simp [front, isBlank, singleKind?, other]
  | bang | equal | greater | less =>
    obtain ⟨rfl, rfl⟩ := List.cons.inj spells
    cases rest with
    | nil => rfl
    | cons d rest =>
      have other : d ≠ '=' := by simpa [Kind.goesOn] using ends d rfl
      simp [front, isBlank, singleKind?, comparisonKinds?, other]
  | number => exact front_of_numeral spells ends
  | string =>
    obtain ⟨content, closed, same⟩ := spells
    obtain ⟨rfl, rfl⟩ := List.cons.inj same
    simpa using front_of_quoted closed
  | comment =>
    obtain ⟨content, closed, same⟩ := spells
    obtain ⟨rfl, rfl⟩ := List.cons.inj same
    exact front_of_comment closed ends
  | endOfScript => exact spells.elim
  | and | or =>
    obtain same | same := spells
    · obtain ⟨rfl, rfl⟩ := List.cons.inj same
      exact front_of_word rfl (List.all_eq_true.mp rfl) ends
    · obtain ⟨rfl, rfl⟩ := List.cons.inj same
      rfl
  | boolean =>
    obtain same | same := spells
    · obtain ⟨rfl, rfl⟩ := List.cons.inj same
      exact front_of_word rfl (List.all_eq_true.mp rfl) ends
    · obtain ⟨rfl, rfl⟩ := List.cons.inj same
      exact front_of_word rfl (List.all_eq_true.mp rfl) ends
  | identifier =>
    obtain ⟨d, chars, same, start, nameChars, kind⟩ := spells
    obtain ⟨rfl, rfl⟩ := List.cons.inj same
    rw [front_of_word start nameChars ends, kind]

theorem Kind.Spells.ne_nil {kind : Kind} {lexeme : List Char} (spells : kind.Spells lexeme) : lexeme ≠ [] := by
  rintro rfl
  cases kind <;> simp [Kind.Spells, IsNumeral, IsName] at spells

theorem scan_of_layout {line : Int} {text : List Char} {tokens : List Token} (layout : Layout line text tokens) :
    scan line text = .ok tokens := by
  induction layout with
  | done line => rw [scan]
  | @blank line c text tokens blank layout ih =>
    have reads : front c text = .blank := by simp [front, blank]
    rw [scan]
    split
    · exact ih
    all_goals simp_all
  | @token line kind lexeme rest tokens spells ends layout ih =>
    obtain ⟨c, body, rfl⟩ := List.exists_cons_of_ne_nil spells.ne_nil
    have reads := front_of_spells spells ends
    rw [List.cons_append, scan]
    split
    · simp_all
    · next k l after h =>
      obtain ⟨rfl, rfl, rfl⟩ := Front.token.inj (reads.symm.trans h)
      rw [ih]
      rfl
    all_goals simp_all

/-! ## Writing words -/

def Word.Spelled (w : Word) : Prop := w.kind.Spells w.lexeme.toList

/-- Whether words of these kinds are written without a space between them. -/
def touches : Kind → Kind → Bool
  | .bang, next => next != .equal && next != .equalEqual
  | .leftParen, _ | .leftBracket, _ | .newline, _ => true
  | .identifier, .leftParen | .identifier, .leftBracket => true
  | _, next => next == .rightParen || next == .rightBracket || next == .comma || next == .newline

def written : List Word → List Char
  | [] => []
  | [w] => w.lexeme.toList
  | w :: next :: rest =>
      w.lexeme.toList ++ (if touches w.kind next.kind then [] else [' ']) ++ written (next :: rest)

theorem Kind.ends_space {kind : Kind} (code : kind ≠ .comment) (rest : List Char) : kind.Ends (' ' :: rest) := by
  intro c hc
  cases hc
  cases kind <;> first | rfl | exact absurd rfl code

theorem Kind.ends_nil (kind : Kind) : kind.Ends [] := by
  intro c hc
  cases hc

theorem Kind.Spells.head_ne_equal {kind : Kind} {c : Char} {body : List Char} (spells : kind.Spells (c :: body))
    (other : kind ≠ .equal ∧ kind ≠ .equalEqual) : c ≠ '=' := by
  rintro rfl
  have reads : front '=' (body ++ []) = .token kind ('=' :: body) [] := front_of_spells spells kind.ends_nil
  cases body with
  | nil => exact other.1 (Front.token.inj reads).1.symm
  | cons d body =>
    by_cases double : d = '='
    · subst double
      exact other.2 (Front.token.inj reads).1.symm
    · simp [front, isBlank, singleKind?, comparisonKinds?, double] at reads

theorem ends_of_touches {kind next : Kind} {lexeme rest : List Char} (code : kind ≠ .comment)
    (touch : touches kind next = true) (spells : next.Spells lexeme) : kind.Ends (lexeme ++ rest) := by
  obtain ⟨c, body, rfl⟩ := List.exists_cons_of_ne_nil spells.ne_nil
  intro d hd
  cases hd
  have closing (closes : next = .rightParen ∨ next = .rightBracket ∨ next = .comma ∨ next = .newline) :
      kind.goesOn c = false := by
    obtain rfl | rfl | rfl | rfl := closes
    all_goals
      obtain ⟨rfl, -⟩ := List.cons.inj spells
      cases kind <;> first | rfl | exact absurd rfl code
  cases kind with
  | bang =>
    simp only [touches, Bool.and_eq_true, bne_iff_ne] at touch
    simpa [Kind.goesOn] using spells.head_ne_equal touch
  | leftParen | leftBracket | newline => rfl
  | identifier =>
    by_cases opens : next = .leftParen ∨ next = .leftBracket
    · obtain rfl | rfl := opens
      all_goals
        obtain ⟨rfl, -⟩ := List.cons.inj spells
        rfl
    · refine closing ?_
      cases next <;> simp_all [touches]
  | _ =>
    refine closing ?_
    simpa [touches, or_assoc] using touch

theorem Layout.word {line : Int} {w : Word} {rest : List Char} {tokens : List Token} (spelled : w.Spelled)
    (ends : w.kind.Ends rest) (layout : Layout (line + w.lexeme.toList.count '\n') rest tokens) :
    Layout line (w.lexeme.toList ++ rest) (⟨w.kind, w.lexeme, line⟩ :: tokens) := by
  have read := Layout.token spelled ends layout
  rwa [String.ofList_toList] at read

/-- Words in a row, with a space between two that do not touch. -/
def joined (touch : Word → Word → Bool) : List Word → List Char
  | [] => []
  | [w] => w.lexeme.toList
  | w :: next :: rest =>
      w.lexeme.toList ++ (if touch w next then [] else [' ']) ++ joined touch (next :: rest)

theorem joined_cons (touch : Word → Word → Bool) (w : Word) (rest : List Word) :
    ∃ after, joined touch (w :: rest) = w.lexeme.toList ++ after := by
  cases rest with
  | nil => exact ⟨[], (List.append_nil _).symm⟩
  | cons next rest => exact ⟨_, by rw [joined, List.append_assoc]⟩

/-- No word goes on where it meets the next: what touches it does not belong to it, and no space ends a comment. -/
def Apart (touch : Word → Word → Bool) (words : List Word) : Prop :=
  ∀ before w next after, words = before ++ w :: next :: after →
    if touch w next then ∀ rest, w.kind.Ends (next.lexeme.toList ++ rest) else w.kind ≠ .comment

/-- Words that are spelled right and stay apart make a layout, in which each of them is a token. -/
theorem layout_joined (line : Int) {touch : Word → Word → Bool} {words : List Word} (spelled : ∀ w ∈ words, w.Spelled)
    (apart : Apart touch words) :
    ∃ tokens last, Layout line (joined touch words) (tokens ++ [⟨.endOfScript, "", last⟩]) ∧
      tokens.map Token.word = words := by
  induction words generalizing line with
  | nil => exact ⟨[], line, .done line, rfl⟩
  | cons w rest ih =>
    obtain ⟨tokens, last, layout, same⟩ := ih (line + w.lexeme.toList.count '\n')
      (fun v mem => spelled v (List.mem_cons_of_mem w mem))
      (fun before v next after split => apart (w :: before) v next after (congrArg (w :: ·) split))
    refine ⟨⟨w.kind, w.lexeme, line⟩ :: tokens, last, ?_, by rw [List.map_cons, same]; rfl⟩
    have wSpelled := spelled w List.mem_cons_self
    cases rest with
    | nil =>
      rw [joined, ← List.append_nil w.lexeme.toList]
      exact .word wSpelled w.kind.ends_nil layout
    | cons next rest =>
      have meet := apart [] w next rest rfl
      rw [joined, List.append_assoc]
      by_cases touching : touch w next = true
      · obtain ⟨after, begins⟩ := joined_cons touch next rest
        rw [if_pos touching] at meet ⊢
        refine .word wSpelled ?_ layout
        rw [List.nil_append, begins]
        exact meet after
      · rw [if_neg touching] at meet ⊢
        exact .word wSpelled (Kind.ends_space meet _) (.blank rfl layout)

theorem written_eq_joined (words : List Word) :
    written words = joined (fun w next => touches w.kind next.kind) words := by
  fun_induction written words with
  | case1 => rfl
  | case2 w => rfl
  | case3 w next rest ih => rw [joined, ih]

theorem layout_written (line : Int) {words : List Word} (spelled : ∀ w ∈ words, w.Spelled)
    (code : ∀ w ∈ words, w.kind ≠ .comment) :
    ∃ tokens last, Layout line (written words) (tokens ++ [⟨.endOfScript, "", last⟩]) ∧
      tokens.map Token.word = words := by
  rw [written_eq_joined]
  refine layout_joined line spelled fun before w next after split => ?_
  have wCode : w.kind ≠ .comment := code w (by simp [split])
  split
  · next touch => exact fun rest => ends_of_touches wCode touch (spelled next (by simp [split]))
  · exact wCode

end IndicatorScript.Token
