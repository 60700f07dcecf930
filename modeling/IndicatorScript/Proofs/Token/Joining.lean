import IndicatorScript.Proofs.Token.Layout
import IndicatorScript.Proofs.Token.Lines

/-!
# Tokens of joined texts

No token reaches beyond a line break that is not inside it. So a text that can be read, a line break and another text
have the tokens of the first, the line break, and those of the second, further down (`tokenize_joined`).
-/

namespace IndicatorScript

def Token.moved (lines : Int) (t : Token) : Token := { t with line := t.line + lines }

/-- The same cause where what was found stands further down. -/
def SyntaxError.Cause.moved (lines : Int) : SyntaxError.Cause → SyntaxError.Cause
  | .unexpectedToken found => .unexpectedToken (found.moved lines)
  | .expected what found => .expected what (found.moved lines)
  | cause => cause

def SyntaxError.moved (lines : Int) (e : SyntaxError) : SyntaxError := ⟨e.cause.moved lines, e.line + lines⟩

@[simp] theorem SyntaxError.Cause.text_moved (lines : Int) (cause : SyntaxError.Cause) :
    (cause.moved lines).text = cause.text := by
  cases cause <;> rfl

namespace Token

@[simp] theorem kind_moved (lines : Int) (t : Token) : (t.moved lines).kind = t.kind := rfl

@[simp] theorem lexeme_moved (lines : Int) (t : Token) : (t.moved lines).lexeme = t.lexeme := rfl

@[simp] theorem moved_zero (t : Token) : t.moved 0 = t := by
  simp [moved]

theorem scan_moved (lines line : Int) (text : List Char) :
    scan (line + lines) text = ((scan line text).map (List.map (moved lines))).mapError (SyntaxError.moved lines) := by
  induction line, text using scan.induct with
  | case1 line =>
    rw [scan, scan]
    rfl
  | case2 line c rest read ih => rw [scan_of_blank _ read, scan_of_blank _ read, ih]
  | case3 line c rest kind lexeme after read ih =>
    have further : line + lexeme.count '\n' + lines = line + lines + lexeme.count '\n' := by omega
    rw [further] at ih
    rw [scan_of_token _ read, scan_of_token _ read, ih]
    cases scan (line + lexeme.count '\n') after <;> rfl
  | case4 line c rest read =>
    rw [scan_of_unexpected _ read, scan_of_unexpected _ read]
    rfl
  | case5 line c rest read =>
    rw [scan_of_unterminated _ read, scan_of_unterminated _ read]
    rfl

/-! ## What stands at the front of joined texts -/

section Front

variable {text : List Char}

/-- The longest part in front does not go on behind a text that it does not fill, or that ends where it stops. -/
theorem takeWhile_joined {p : Char → Bool} {more : List Char}
    (stops : ∀ c ∈ (text.dropWhile p ++ more).head?, p c = false) :
    (text ++ more).takeWhile p = text.takeWhile p ∧ (text ++ more).dropWhile p = text.dropWhile p ++ more := by
  have whole : text ++ more = text.takeWhile p ++ (text.dropWhile p ++ more) := by
    rw [← List.append_assoc, List.takeWhile_append_dropWhile]
  have all : ∀ c ∈ text.takeWhile p, p c := List.all_eq_true.mp List.all_takeWhile
  rw [whole]
  exact ⟨takeWhile_append_of_stops all stops, dropWhile_append_of_stops all stops⟩

theorem stops_of_dropWhile {p : Char → Bool} {c : Char} {after : List Char} (dropped : text.dropWhile p = c :: after)
    (more : List Char) : ∀ d ∈ (text.dropWhile p ++ more).head?, p d = false := by
  intro d isHead
  have stops := List.head?_dropWhile_not (p := p) (l := text)
  rw [dropped] at stops isHead
  cases isHead
  exact stops

theorem takeWhile_line (p : Char → Bool) (stops : p '\n' = false) (text more : List Char) :
    (text ++ '\n' :: more).takeWhile p = text.takeWhile p ∧
      (text ++ '\n' :: more).dropWhile p = text.dropWhile p ++ '\n' :: more := by
  refine takeWhile_joined ?_
  cases dropped : text.dropWhile p with
  | nil =>
    intro c isHead
    cases isHead
    exact stops
  | cons c after => exact dropped ▸ stops_of_dropWhile dropped ('\n' :: more)

theorem number_joined (text more : List Char) :
    number (text ++ '\n' :: more) = ((number text).1, (number text).2 ++ '\n' :: more) := by
  rcases takeWhile_line isDigit (by decide) text more with ⟨taken, dropped⟩
  unfold number
  rw [taken, dropped]
  rcases text.dropWhile isDigit with _ | ⟨c, _ | ⟨d, rest⟩⟩
  · rfl
  · by_cases point : c = '.'
    · subst point
      rfl
    · simp [point]
  · by_cases point : c = '.'
    · subst point
      rcases takeWhile_line isDigit (by decide) rest more with ⟨taken, dropped⟩
      by_cases digit : isDigit d
      · simp [digit, taken, dropped]
      · simp [digit]
    · simp [point]

end Front

theorem front_joined {c : Char} {rest lexeme after : List Char} {kind : Kind}
    (read : front c rest = .token kind lexeme after) (more : List Char) :
    front c (rest ++ '\n' :: more) = .token kind lexeme (after ++ '\n' :: more) := by
  unfold front at read ⊢
  split at read
  · cases read
  next solid =>
  rw [if_neg solid]
  -- one character
  split at read
  · cases read
    simp_all
  -- a slash, or a comment up to the end of its line
  split at read
  · next isSlash =>
    rw [if_pos isSlash]
    split at read
    · next again =>
      cases read
      rcases takeWhile_line (· ≠ '\n') (by decide) rest more with ⟨taken, dropped⟩
      rw [if_pos (by rw [List.head?_append, again]; rfl), taken, dropped]
    · next other =>
      cases read
      rw [if_neg]
      cases rest with
      | nil => simp
      | cons d rest => simpa using other
  next noSlash =>
  rw [if_neg noSlash]
  -- a comparison: the line break is no sign of equality
  split at read
  · split at read
    · cases read
      rfl
    · next other =>
      cases read
      cases rest with
      | nil => rfl
      | cons d rest =>
        have noEqual : d ≠ '=' := fun same => other rest (by rw [same])
        simp [noEqual]
  -- a character twice
  split at read
  · split at read
    · split at read
      · next same =>
        cases read
        simp [same]
      · cases read
    · cases read
  -- a string, which may go on behind the line
  split at read
  · next isQuote =>
    rw [if_pos isQuote]
    split at read
    · next close closing ends =>
      cases read
      rcases takeWhile_joined (stops_of_dropWhile ends ('\n' :: more)) with ⟨taken, dropped⟩
      rw [taken, dropped, ends]
      rfl
    · cases read
  next noQuote =>
  rw [if_neg noQuote]
  -- a number or a word
  split at read
  · next digit =>
    rw [if_pos digit, ← List.cons_append, number_joined]
    generalize number (c :: rest) = made at read ⊢
    cases read
    rfl
  next noDigit =>
  rw [if_neg noDigit]
  split at read
  · next start =>
    cases read
    rcases takeWhile_line isNameChar (by decide) rest more with ⟨taken, dropped⟩
    rw [if_pos start, taken, dropped]
  · cases read

theorem front_joined_of_blank {c : Char} {rest : List Char} (read : front c rest = .blank) (more : List Char) :
    front c more = .blank :=
  if_pos (isBlank_of_front read)

theorem scan_joined {line : Int} {text : List Char} {tokens : List Token} (read : scan line text = .ok tokens)
    (more : List Char) :
    ∃ before, tokens = before ++ [⟨.endOfScript, "", line + text.count '\n'⟩] ∧
      scan line (text ++ '\n' :: more) =
        (scan (line + text.count '\n' + 1) more).map (before ++ ⟨.newline, "\n", line + text.count '\n'⟩ :: ·) := by
  induction line, text using scan.induct generalizing tokens with
  | case1 line =>
    rw [scan] at read
    cases read
    refine ⟨[], by simp, ?_⟩
    have read : front '\n' more = .token .newline ['\n'] more := rfl
    rw [List.nil_append, scan_of_token line read]
    simp
  | case2 line c rest blank ih =>
    rw [scan_of_blank _ blank] at read
    rw [List.cons_append, scan_of_blank _ (front_joined_of_blank blank _),
      List.count_cons_of_ne (ne_newline_of_blank blank)]
    exact ih read
  | case3 line c rest kind lexeme after isToken ih =>
    rw [scan_of_token _ isToken] at read
    rcases exists_of_map_eq_ok read with ⟨further, found, rfl⟩
    rcases ih found with ⟨before, rfl, joined⟩
    have breaks := count_of_front isToken
    have last : line + lexeme.count '\n' + after.count '\n' = line + ((c :: rest).count '\n' : Nat) := by omega
    rw [last] at joined
    refine ⟨⟨kind, String.ofList lexeme, line⟩ :: before, by rw [last]; rfl, ?_⟩
    rw [List.cons_append, scan_of_token _ (front_joined isToken more), joined]
    cases scan (line + ((c :: rest).count '\n' : Nat) + 1) more <;> rfl
  | case4 line c rest unexpected =>
    rw [scan_of_unexpected _ unexpected] at read
    cases read
  | case5 line c rest unterminated =>
    rw [scan_of_unterminated _ unterminated] at read
    cases read

end Token

theorem tokenize_joined {first : String} {tokens : List Token} (read : tokenize first = .ok tokens) (second : String) :
    ∃ before, tokens = before ++ [⟨.endOfScript, "", 1 + first.toList.count '\n'⟩] ∧
      tokenize (first ++ "\n" ++ second) =
        ((tokenize second).map fun tokens => before ++
          ⟨.newline, "\n", 1 + first.toList.count '\n'⟩ :: tokens.map (Token.moved (1 + first.toList.count '\n'))).mapError
            (SyntaxError.moved (1 + first.toList.count '\n')) := by
  rcases Token.scan_joined read second.toList with ⟨before, rfl, joined⟩
  have together : (first ++ "\n" ++ second).toList = first.toList ++ '\n' :: second.toList := by simp
  refine ⟨before, rfl, ?_⟩
  rw [tokenize, together, joined, Int.add_comm _ 1, Token.scan_moved, tokenize]
  cases Token.scan 1 second.toList <;> rfl

end IndicatorScript
