import IndicatorScript.Proofs.Token.Comments

/-!
# Words with spaces between them

The lexer reads words that are written with spaces between them as just these words, and gives no others than can be
written so (`tokenize_spaced`).
-/

namespace IndicatorScript

namespace Token

/-- A space between neighbours, but none between a comment and the line break behind it. -/
def spaced : List Word → List Char :=
  joined fun w next => w.kind = .comment ∧ next.kind = .newline

/-- Words that are spelled right, of which each comment is the last or has a line break right behind it. -/
structure Writable (words : List Word) : Prop where
  spelled : ∀ w ∈ words, w.Spelled
  comments : ∀ before comment after, words = before ++ comment :: after → comment.kind = .comment →
    ∀ next ∈ after.head?, next.kind = .newline

theorem Writable.apart {words : List Word} (writable : Writable words) :
    Apart (fun w next => w.kind = .comment ∧ next.kind = .newline) words := by
  intro before w next after split
  split
  · next closes =>
    obtain ⟨isComment, isNewline⟩ := of_decide_eq_true closes
    have spelled : next.Spelled := writable.spelled next (by simp [split])
    rw [Word.Spelled, isNewline] at spelled
    intro rest d first
    rw [isComment, spelled] at *
    cases first
    rfl
  · next opens =>
    intro isComment
    exact opens (decide_eq_true ⟨isComment, writable.comments before w (next :: after) split isComment next rfl⟩)

theorem scan_spaced (line : Int) {words : List Word} (writable : Writable words) :
    ∃ tokens, scan line (spaced words) = .ok tokens ∧ tokens.map Token.word = words ++ [⟨.endOfScript, ""⟩] := by
  obtain ⟨tokens, last, layout, same⟩ := layout_joined line writable.spelled writable.apart
  exact ⟨_, scan_of_layout layout, by rw [List.map_append, same]; rfl⟩

theorem Writable.of_tokens {tokens : List Token} {last : Token} (spelled : IndicatorScript.Spelled tokens)
    (ends : CommentsEndLines (tokens ++ [last])) : Writable (tokens.map Token.word) where
  spelled := List.forall_mem_map.mpr spelled
  comments before comment after split isComment next first := by
    obtain ⟨ahead, more, rfl, rfl, others⟩ := List.map_eq_append_iff.mp split
    obtain ⟨t, behind, rfl, rfl, rfl⟩ := List.map_eq_cons_iff.mp others
    cases behind with
    | nil => cases first
    | cons u behind =>
      cases first
      obtain ⟨next, first, ends⟩ := ends ahead t (u :: behind ++ [last]) (by simp) isComment
      cases first
      exact ends.kind.resolve_right (spelled.inside (by simp))

theorem scan_writable (line : Int) (text : List Char) :
    Gives (fun tokens => ∃ words, Writable words ∧ tokens.map Token.word = words ++ [⟨.endOfScript, ""⟩])
      (scan line text) := by
  intro tokens read
  obtain ⟨spelled, last, rfl, each⟩ := scan_spelled line text tokens read
  exact ⟨spelled.map Token.word, .of_tokens each (scan_comments line text _ read), List.map_append⟩

end Token

open Token

theorem tokenize_spaced :
    (∀ words, Writable words → ∃ tokens, tokenize (String.ofList (spaced words)) = .ok tokens ∧
      tokens.map Token.word = words ++ [⟨.endOfScript, ""⟩]) ∧
    ∀ source tokens, tokenize source = .ok tokens → ∃ words, Writable words ∧
      tokens.map Token.word = words ++ [⟨.endOfScript, ""⟩] ∧
      ∃ again, tokenize (String.ofList (spaced words)) = .ok again ∧ again.map Token.word = tokens.map Token.word := by
  have written (words : List Word) (writable : Writable words) :
      ∃ tokens, tokenize (String.ofList (spaced words)) = .ok tokens ∧
        tokens.map Token.word = words ++ [⟨.endOfScript, ""⟩] := by
    rw [tokenize, String.toList_ofList]
    exact scan_spaced 1 writable
  refine ⟨written, fun source tokens read => ?_⟩
  rcases scan_writable 1 source.toList tokens read with ⟨words, writable, same⟩
  rcases written words writable with ⟨again, read, same'⟩
  exact ⟨words, writable, same, again, read, same'.trans same.symm⟩

namespace Sample

def touching : List Token :=
  [⟨.identifier, "a", 1⟩, ⟨.equal, "=", 1⟩, ⟨.string, "\"b\nc\"", 1⟩, ⟨.and, "&&", 2⟩, ⟨.number, "1.5", 2⟩,
    ⟨.comment, "//d", 2⟩, ⟨.newline, "\n", 2⟩, ⟨.or, "or", 3⟩, ⟨.bang, "!", 3⟩, ⟨.endOfScript, "", 3⟩]

end Sample

theorem tokenize_spaced_sample :
    tokenize "a=\"b\nc\"&&1.5//d\nor!" = .ok Sample.touching ∧ ∃ words, Writable words ∧
      String.ofList (spaced words) = "a = \"b\nc\" && 1.5 //d\n or !" ∧
      ∃ tokens, tokenize (String.ofList (spaced words)) = .ok tokens ∧
        tokens.map Token.word = words ++ [⟨.endOfScript, ""⟩] ∧
        tokens.map Token.word = Sample.touching.map Token.word := by
  have read : tokenize "a=\"b\nc\"&&1.5//d\nor!" = .ok Sample.touching := eq_ok_of_toOption (by decide +kernel)
  obtain ⟨words, writable, same, -⟩ := tokenize_spaced.2 _ _ read
  obtain ⟨tokens, again, same'⟩ := tokenize_spaced.1 words writable
  have whole : Sample.touching.map Token.word = (Sample.touching.map Token.word).dropLast ++ [⟨.endOfScript, ""⟩] := rfl
  obtain ⟨rfl, -⟩ := List.append_inj' (same.symm.trans whole) rfl
  exact ⟨read, _, writable, by decide +kernel, tokens, again, same', same'.trans same.symm⟩

end IndicatorScript
