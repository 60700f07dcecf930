import IndicatorScript.Proofs.Token.Scan

/-!
# Where comments stand

A comment takes what is left of its line. So the token behind it is a line break or the end of the script, and stands on
the same line (`scan_comments`).
-/

namespace IndicatorScript

/-- The line ends with this token. -/
structure Token.EndsLine (line : Int) (t : Token) : Prop where
  kind : t.kind = .newline ∨ t.kind = .endOfScript
  line : t.line = line

/-- The line of each comment ends with the very next token. -/
def CommentsEndLines (tokens : List Token) : Prop :=
  ∀ before comment after, tokens = before ++ comment :: after → comment.kind = .comment →
    ∃ next ∈ after.head?, next.EndsLine comment.line

section Tokens

variable {t : Token} {tokens : List Token}

theorem commentsEndLines_nil : CommentsEndLines [] := by
  intro before comment after split
  simp at split

theorem CommentsEndLines.cons (ends : CommentsEndLines tokens)
    (first : t.kind = .comment → ∃ next ∈ tokens.head?, next.EndsLine t.line) :
    CommentsEndLines (t :: tokens) := by
  intro before comment after split isComment
  cases before with
  | nil =>
    obtain ⟨rfl, rfl⟩ := List.cons.inj split
    exact first isComment
  | cons u before => exact ends before comment after (List.cons.inj split).2 isComment

theorem CommentsEndLines.tail (ends : CommentsEndLines (t :: tokens)) : CommentsEndLines tokens :=
  fun before comment after split => ends (t :: before) comment after (congrArg (t :: ·) split)

end Tokens

namespace Token

theorem line_ends_of_comment {c : Char} {rest lexeme after : List Char}
    (read : front c rest = .token .comment lexeme after) :
    lexeme.count '\n' = 0 ∧ ∀ d ∈ after.head?, d = '\n' := by
  obtain ⟨content, closed, rfl⟩ : Kind.comment.Spells lexeme := front_spells read
  obtain ⟨rfl, rfl⟩ : '/' = c ∧ '/' :: content ++ after = rest := List.cons.inj (front_append read)
  have dropped : ('/' :: content ++ after).dropWhile (· ≠ '\n') = after := (Front.token.inj read).2.2
  refine ⟨List.count_eq_zero.mpr (by simpa using closed), fun d first => ?_⟩
  have stops := List.head?_dropWhile_not (· ≠ '\n') ('/' :: content ++ after)
  rw [dropped, first] at stops
  simpa using stops

theorem scan_lineEnd (line : Int) {text : List Char} (breaks : ∀ d ∈ text.head?, d = '\n') :
    Gives (fun tokens => ∃ next ∈ tokens.head?, next.EndsLine line) (scan line text) := by
  cases text with
  | nil =>
    rw [scan]
    exact .ok ⟨_, rfl, ⟨.inr rfl, rfl⟩⟩
  | cons d text =>
    obtain rfl : d = '\n' := breaks d rfl
    have read : front '\n' text = .token .newline ['\n'] text := rfl
    rw [scan_of_token line read]
    exact (Gives.trivial _).map fun _ _ => ⟨_, rfl, ⟨.inl rfl, rfl⟩⟩

theorem scan_comments (line : Int) (text : List Char) : Gives CommentsEndLines (scan line text) := by
  fun_induction scan line text with
  | case1 line => exact .ok (commentsEndLines_nil.cons (by simp))
  | case2 line c rest blank ih => exact ih
  | case3 line c rest kind lexeme after read ih =>
    intro tokens given
    rcases exists_of_map_eq_ok given with ⟨further, found, rfl⟩
    refine (ih further found).cons fun isComment => ?_
    obtain rfl : kind = .comment := isComment
    rcases line_ends_of_comment read with ⟨within, breaks⟩
    rw [within] at found
    simpa using scan_lineEnd _ breaks further found
  | case4 line c rest unexpected => exact .error _
  | case5 line c rest unterminated => exact .error _

end Token

end IndicatorScript
