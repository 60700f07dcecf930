import IndicatorScript.SyntaxError

/-!
# Reading tokens

`tokenize` reads a text from left to right. `front` says what stands at the front of a text: a blank, a token and what
follows it, or a character that begins no token. A token spans the longest text that its kind allows, so what follows
is shorter than the text, and reading ends.
-/

namespace IndicatorScript

namespace Token

def isDigit (c : Char) : Bool := '0' ≤ c && c ≤ '9'

/-- Names are made of the unaccented letters, digits and underscores, and do not begin with a digit. -/
def isNameStart (c : Char) : Bool := ('a' ≤ c && c ≤ 'z') || ('A' ≤ c && c ≤ 'Z') || c == '_'

def isNameChar (c : Char) : Bool := isNameStart c || isDigit c

def isBlank (c : Char) : Bool := c == ' ' || c == '\t' || c == '\r'

def singleKind? : Char → Option Kind
  | '\n' => some .newline
  | '(' => some .leftParen
  | ')' => some .rightParen
  | '[' => some .leftBracket
  | ']' => some .rightBracket
  | ',' => some .comma
  | '+' => some .plus
  | '-' => some .minus
  | '*' => some .star
  | _ => none

def comparisonKinds? : Char → Option (Kind × Kind)
  | '!' => some (.bang, .bangEqual)
  | '=' => some (.equal, .equalEqual)
  | '<' => some (.less, .lessEqual)
  | '>' => some (.greater, .greaterEqual)
  | _ => none

def doubledKind? : Char → Option Kind
  | '&' => some .and
  | '|' => some .or
  | _ => none

def wordKind (word : List Char) : Kind :=
  if word = ['t', 'r', 'u', 'e'] ∨ word = ['f', 'a', 'l', 's', 'e'] then .boolean
  else if word = ['a', 'n', 'd'] then .and
  else if word = ['o', 'r'] then .or
  else .identifier

inductive Front where
  | blank
  | token (kind : Kind) (lexeme rest : List Char)
  /-- The first character begins no token. -/
  | unexpected
  /-- The first character is a quote, and no other quote follows. -/
  | unterminated
  deriving DecidableEq, Repr

def number (text : List Char) : List Char × List Char :=
  let whole := text.takeWhile isDigit
  match text.dropWhile isDigit with
  | '.' :: d :: rest =>
      if isDigit d then (whole ++ '.' :: d :: rest.takeWhile isDigit, rest.dropWhile isDigit)
      else (whole, '.' :: d :: rest)
  | rest => (whole, rest)

def front (c : Char) (rest : List Char) : Front :=
  if isBlank c then .blank
  else if let some kind := singleKind? c then .token kind [c] rest
  else if c = '/' then
    if rest.head? = some '/' then
      .token .comment (c :: rest.takeWhile (· ≠ '\n')) (rest.dropWhile (· ≠ '\n'))
    else .token .slash [c] rest
  else if let some (alone, followed) := comparisonKinds? c then
    match rest with
    | '=' :: rest => .token followed [c, '='] rest
    | rest => .token alone [c] rest
  else if let some kind := doubledKind? c then
    match rest with
    | d :: rest => if d = c then .token kind [c, c] rest else .unexpected
    | [] => .unexpected
  else if c = '"' then
    match rest.dropWhile (· ≠ '"') with
    | close :: after => .token .string (c :: rest.takeWhile (· ≠ '"') ++ [close]) after
    | [] => .unterminated
  else if isDigit c then
    let (lexeme, after) := number (c :: rest)
    .token .number lexeme after
  else if isNameStart c then
    let word := c :: rest.takeWhile isNameChar
    .token (wordKind word) word (rest.dropWhile isNameChar)
  else .unexpected

/-! ## Nothing is lost -/

theorem number_append (text : List Char) : (number text).1 ++ (number text).2 = text := by
  unfold number
  have whole := List.takeWhile_append_dropWhile (p := isDigit) (l := text)
  split
  · next d rest split =>
    rw [split] at whole
    split
    · simpa using whole
    · exact whole
  · exact whole

theorem number_ne_nil {c : Char} (rest : List Char) (digit : isDigit c = true) : (number (c :: rest)).1 ≠ [] := by
  unfold number
  split
  · split <;> simp [digit]
  · simp [digit]

theorem front_append {c : Char} {rest lexeme after : List Char} {kind : Kind}
    (h : front c rest = .token kind lexeme after) : lexeme ++ after = c :: rest := by
  unfold front at h
  split at h
  · cases h
  split at h
  · cases h; rfl
  split at h
  · split at h
    · cases h; simp [List.takeWhile_append_dropWhile]
    · cases h; rfl
  split at h
  · split at h <;> cases h <;> rfl
  split at h
  · split at h
    · split at h
      · next equal => cases h; simp [equal]
      · cases h
    · cases h
  split at h
  · split at h
    · next close _ dropped =>
      cases h
      have whole := List.takeWhile_append_dropWhile (p := (· ≠ '"')) (l := rest)
      rw [dropped] at whole
      simpa using whole
    · cases h
  split at h
  · cases h; exact number_append (c :: rest)
  split at h
  · cases h; simp [List.takeWhile_append_dropWhile]
  · cases h

theorem front_lexeme_ne_nil {c : Char} {rest lexeme after : List Char} {kind : Kind}
    (h : front c rest = .token kind lexeme after) : lexeme ≠ [] := by
  unfold front at h
  split at h
  · cases h
  split at h
  · cases h; simp
  split at h
  · split at h <;> cases h <;> simp
  split at h
  · split at h <;> cases h <;> simp
  split at h
  · split at h
    · split at h
      · cases h; simp
      · cases h
    · cases h
  split at h
  · split at h
    · cases h; simp
    · cases h
  split at h
  · next digit => cases h; exact number_ne_nil rest digit
  split at h
  · cases h; simp
  · cases h

theorem front_shorter {c : Char} {rest lexeme after : List Char} {kind : Kind}
    (h : front c rest = .token kind lexeme after) : after.length < rest.length + 1 := by
  have whole := congrArg List.length (front_append h)
  have nonempty := List.length_pos_iff.mpr (front_lexeme_ne_nil h)
  simp only [List.length_append, List.length_cons] at whole
  omega

/-! ## Reading a text -/

def scan (line : Int) : List Char → Except SyntaxError (List Token)
  | [] => .ok [⟨.endOfScript, "", line⟩]
  | c :: rest =>
      match _h : front c rest with
      | .blank => scan line rest
      | .token kind lexeme after =>
          (scan (line + lexeme.count '\n') after).map (⟨kind, String.ofList lexeme, line⟩ :: ·)
      | .unexpected => .error ⟨.unexpectedCharacter c, line⟩
      | .unterminated => .error ⟨.unterminatedString, line⟩
  termination_by text => text.length
  decreasing_by
    · simp
    · exact front_shorter (by assumption)

section Scan

variable {c : Char} {rest : List Char} (line : Int)

theorem scan_of_blank (read : front c rest = .blank) : scan line (c :: rest) = scan line rest := by
  rw [scan]
  split <;> simp_all

theorem scan_of_token {kind : Kind} {lexeme after : List Char} (read : front c rest = .token kind lexeme after) :
    scan line (c :: rest) =
      (scan (line + lexeme.count '\n') after).map (⟨kind, String.ofList lexeme, line⟩ :: ·) := by
  rw [scan]
  split <;> simp_all

theorem scan_of_unexpected (read : front c rest = .unexpected) :
    scan line (c :: rest) = .error ⟨.unexpectedCharacter c, line⟩ := by
  rw [scan]
  split <;> simp_all

theorem scan_of_unterminated (read : front c rest = .unterminated) :
    scan line (c :: rest) = .error ⟨.unterminatedString, line⟩ := by
  rw [scan]
  split <;> simp_all

end Scan

end Token

/-- The tokens of a script, with the end of the script as the last one. -/
def tokenize (source : String) : Except SyntaxError (List Token) :=
  Token.scan 1 source.toList

end IndicatorScript
