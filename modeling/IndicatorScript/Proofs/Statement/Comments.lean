import IndicatorScript.Proofs.Statement.Joining
import IndicatorScript.Proofs.Token.Comments

/-!
# Scripts without their comments

The parser makes the same of a script without its comments, or fails on the same line (`parseTokens_uncommented`). That
rests on where the lexer puts a comment: at the end of a line, so the token behind it ends a statement as the comment
does, and stands on the same line.
-/

namespace IndicatorScript

def uncommented (tokens : List Token) : List Token := tokens.filter (·.kind ≠ .comment)

section Tokens

variable {t : Token} {tokens : List Token}

theorem uncommented_cons_of_comment (isComment : t.kind = .comment) :
    uncommented (t :: tokens) = uncommented tokens :=
  List.filter_cons_of_neg (by simp [isComment])

theorem uncommented_cons_of_code (isCode : t.kind ≠ .comment) :
    uncommented (t :: tokens) = t :: uncommented tokens :=
  List.filter_cons_of_pos (by simp [isCode])

theorem length_uncommented_le (tokens : List Token) : (uncommented tokens).length ≤ tokens.length :=
  List.length_filter_le _ tokens

end Tokens

/-! ## Parsing without comments -/

section Outcomes

variable {β γ : Type}

/-- The same result, or failures on the same line. -/
inductive SameOutcome : Except SyntaxError β → Except SyntaxError β → Prop where
  | ok (x : β) : SameOutcome (.ok x) (.ok x)
  | error {e e' : SyntaxError} (line : e.line = e'.line) : SameOutcome (.error e) (.error e')

namespace SameOutcome

variable {result result' : Except SyntaxError β}

theorem map (same : SameOutcome result result') (f : β → γ) : SameOutcome (result.map f) (result'.map f) := by
  cases same with
  | ok x => exact .ok (f x)
  | error line => exact .error line

theorem ok_or_error (same : SameOutcome result result') :
    (∃ x, result = .ok x ∧ result' = .ok x) ∨
      ∃ e e', result = .error e ∧ result' = .error e' ∧ e.line = e'.line := by
  cases same with
  | ok x => exact .inl ⟨x, rfl, rfl⟩
  | error line => exact .inr ⟨_, _, rfl, rfl, line⟩

end SameOutcome

end Outcomes

variable {α : Type} [Literal α] {limit : Limit} {last : Int} {most room room' : Nat}

namespace Statement

theorem statements_followed {line : Int} {behind behind' : List Token} (before : List Token) (declared : List String)
    (enough : most ≤ room ∧ most ≤ room' ∨ room = room') (few : before.length ≤ most)
    (ends : ∀ t ∈ behind.head?, t.kind = .newline ∨ t.kind = .comment)
    (ends' : ∀ t ∈ behind'.head?, t.kind = .newline ∨ t.kind = .comment)
    (here : (Bounds.next ⟨limit, last⟩ behind).line = line) (here' : (Bounds.next ⟨limit, last⟩ behind').line = line)
    (further : ∀ declared, SameOutcome (statements (α := α) ⟨limit, last⟩ room declared behind)
      (statements ⟨limit, last⟩ room' declared behind')) :
    SameOutcome (statements (α := α) ⟨limit, last⟩ room declared (before ++ behind))
      (statements ⟨limit, last⟩ room' declared (before ++ behind')) := by
  -- the tokens alone, as the end of a script on that line
  let place : Placement := ⟨⟨limit, line⟩, ⟨limit, last⟩, 0, behind, ends⟩
  let place' : Placement := ⟨⟨limit, line⟩, ⟨limit, last⟩, 0, behind', ends'⟩
  have fits : place.Fits before.length room room := .inr ⟨Nat.le_refl room, fun _ => rfl⟩
  have fits' : place'.Fits before.length room room' :=
    enough.imp (fun enough => ⟨Nat.le_trans few enough.1, Nat.le_trans few enough.2⟩)
      fun same => ⟨Nat.le_of_eq same, fun _ => same⟩
  rw [← place.tokens_of_unmoved rfl, ← place'.tokens_of_unmoved rfl]
  cases parsed : statements (α := α) ⟨limit, line⟩ room declared before with
  | ok script =>
    rw [statements_continued fits parsed, statements_continued fits' parsed]
    exact (further _).map (script ++ ·)
  | error e =>
    obtain ⟨e₁, failed, same⟩ := (statements_failed fits parsed).resolve_right fun other => other.1 rfl
    obtain ⟨e₂, failed', same'⟩ := (statements_failed fits' parsed).resolve_right fun other => other.1 rfl
    have onLine : e₁.line = e.line + 0 := same.line (here.trans (Int.add_zero line).symm)
    have onLine' : e₂.line = e.line + 0 := same'.line (here'.trans (Int.add_zero line).symm)
    rw [failed, failed']
    exact .error (onLine.trans onLine'.symm)

/-- The induction moves tokens to the front until a comment comes, and goes on behind it. -/
theorem statements_uncommented {tokens : List Token} (before : List Token) (declared : List String)
    (enough : most ≤ room ∧ most ≤ room' ∨ room = room') (few : (before ++ uncommented tokens).length ≤ most)
    (inside : ∀ t ∈ tokens, t.kind ≠ .endOfScript)
    (ended : CommentsEndLines (tokens ++ [⟨.endOfScript, "", last⟩])) :
    SameOutcome (statements (α := α) ⟨limit, last⟩ room declared (before ++ tokens))
      (statements ⟨limit, last⟩ room' declared (before ++ uncommented tokens)) := by
  induction tokens generalizing before declared with
  | nil =>
    refine statements_followed before declared enough (by simpa [uncommented] using few) nofun nofun rfl rfl
      fun declared => ?_
    rw [uncommented, List.filter_nil, statements, statements]
    exact .ok []
  | cons t rest ih =>
    have inside' : ∀ u ∈ rest, u.kind ≠ .endOfScript := fun u mem => inside u (List.mem_cons_of_mem t mem)
    by_cases isComment : t.kind = .comment
    · rw [uncommented_cons_of_comment isComment] at few ⊢
      obtain ⟨next, first, ends, line⟩ := ended [] t (rest ++ [⟨.endOfScript, "", last⟩]) rfl isComment
      have counted : before.length + (uncommented rest).length ≤ most := by rwa [List.length_append] at few
      have fewer : before.length ≤ most := Nat.le_trans (Nat.le_add_right _ _) counted
      have continues (declared : List String) :
          SameOutcome (statements (α := α) ⟨limit, last⟩ room declared (t :: rest))
            (statements ⟨limit, last⟩ room' declared (uncommented rest)) := by
        rw [statements, if_pos (.inr isComment)]
        exact ih [] declared (Nat.le_trans (Nat.le_add_left _ _) counted) inside' ended.tail
      cases rest with
      | nil =>
        cases first
        exact statements_followed before declared enough fewer (by simp [isComment]) nofun rfl line continues
      | cons u rest =>
        obtain rfl : u = next := Option.some.inj first
        have isNewline : u.kind = .newline := ends.resolve_right (inside' u List.mem_cons_self)
        have isCode : u.kind ≠ .comment := by simp [isNewline]
        rw [uncommented_cons_of_code isCode] at continues ⊢
        exact statements_followed before declared enough fewer (by simp [isComment]) (by simp [isNewline]) rfl line
          continues
    · have moved := ih (before ++ [t]) declared
      rw [uncommented_cons_of_code isComment] at few ⊢
      simp only [List.append_assoc, List.singleton_append] at moved
      exact moved few inside' ended.tail

end Statement

/-- What a script means and the line on which it fails are the same without the comments. -/
theorem parseTokens_uncommented {source : String} {tokens : List Token} (read : tokenize source = .ok tokens) :
    CommentsEndLines tokens ∧
    ∀ limit : Limit,
      (∃ script : List (Statement α), parseTokens limit tokens = .ok script ∧
        parseTokens limit (uncommented tokens) = .ok script) ∨
      ∃ e e', parseTokens (α := α) limit tokens = .error e ∧
        parseTokens (α := α) limit (uncommented tokens) = .error e' ∧ e.line = e'.line := by
  have ended : CommentsEndLines tokens := Token.scan_comments 1 source.toList tokens read
  refine ⟨ended, fun limit => ?_⟩
  rcases (tokenize_sound source).gives tokens read with ⟨ahead, rfl, sound⟩
  have inside : ∀ t ∈ ahead, t.kind ≠ .endOfScript := fun t mem => (sound t mem).1.inside
  have inside' : ∀ t ∈ uncommented ahead, t.kind ≠ .endOfScript := fun t mem => inside t (List.mem_filter.mp mem).1
  have without : uncommented (ahead ++ [⟨.endOfScript, "", lineCount source⟩]) =
      uncommented ahead ++ [⟨.endOfScript, "", lineCount source⟩] := List.filter_append ..
  have fewer := Nat.succ_le_succ (length_uncommented_le ahead)
  have same : SameOutcome (parseTokens (α := α) limit (ahead ++ [⟨.endOfScript, "", lineCount source⟩]))
      (parseTokens limit (uncommented (ahead ++ [⟨.endOfScript, "", lineCount source⟩]))) := by
    rw [without, parseTokens_append limit inside rfl, parseTokens_append limit inside' rfl]
    have enough := (limit.room_cases fewer).imp And.symm Eq.symm
    exact Statement.statements_uncommented [] [] enough (Nat.le_succ _) inside ended
  exact same.ok_or_error

namespace Sample

def commented : List Token :=
  [⟨.identifier, "a", 1⟩, ⟨.equal, "=", 1⟩, ⟨.identifier, "b", 1⟩, ⟨.comment, "// c", 1⟩, ⟨.newline, "\n", 1⟩,
    ⟨.identifier, "plot", 2⟩, ⟨.leftParen, "(", 2⟩, ⟨.identifier, "a", 2⟩, ⟨.comment, "// d", 2⟩, ⟨.endOfScript, "", 2⟩]

end Sample

theorem parseTokens_uncommented_sample :
    tokenize "a = b // c\nplot(a // d" = .ok Sample.commented ∧ CommentsEndLines Sample.commented ∧
      ∃ e e', parseTokens (α := Float) (.whole 50) Sample.commented = .error e ∧
        parseTokens (α := Float) (.whole 50) (uncommented Sample.commented) = .error e' ∧ e.line = e'.line := by
  have read : tokenize "a = b // c\nplot(a // d" = .ok Sample.commented := eq_ok_of_toOption (by decide +kernel)
  have refused : (parseTokens (α := Float) (.whole 50) Sample.commented).isOk = false := by cbv
  rcases parseTokens_uncommented (α := Float) read with ⟨ended, same⟩
  refine ⟨read, ended, ?_⟩
  rcases same (.whole 50) with ⟨script, parsed, -⟩ | failed
  · rw [parsed] at refused
    cases refused
  · exact failed

end IndicatorScript
