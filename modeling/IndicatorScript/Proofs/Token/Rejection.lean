import IndicatorScript.Proofs.Token.Comments
import IndicatorScript.Proofs.Token.Longest

/-!
# Texts that cannot be read

Reading takes blanks and longest lexemes off the front of a text. It fails where the text left begins with neither, on
the line that this text begins on, and at no other place (`tokenize_stops`).
-/

namespace IndicatorScript

namespace Token

/-- Reading the two texts as one passes the place between them. -/
inductive Boundary : List Char → List Char → Prop where
  | start (text : List Char) : Boundary [] text
  | blank {c : Char} {before after : List Char} (blank : c ∈ blanks) (further : Boundary before after) :
      Boundary (c :: before) after
  | lexeme {kind : Kind} {lexeme before after : List Char} (longest : Longest (lexeme ++ (before ++ after)) kind lexeme)
      (further : Boundary before after) : Boundary (lexeme ++ before) after

section Scan

variable {text after lexeme : List Char} {kind : Kind} {cause : SyntaxError.Cause} (line : Int)

theorem Longest.scan_eq (longest : Longest (lexeme ++ after) kind lexeme) :
    scan line (lexeme ++ after) =
      (scan (line + lexeme.count '\n') after).map (⟨kind, String.ofList lexeme, line⟩ :: ·) := by
  obtain ⟨c, body, rfl⟩ := List.exists_cons_of_ne_nil longest.spells.ne_nil
  exact scan_of_token line (front_of_longest longest rfl)

theorem Unreadable.scan_eq (unreadable : Unreadable text cause) : scan line text = .error ⟨cause, line⟩ := by
  obtain ⟨c, rest, rfl⟩ : ∃ c rest, text = c :: rest := by cases unreadable <;> exact ⟨_, _, rfl⟩
  have reported := unreadable_iff.mp unreadable
  cases read : front c rest with
  | blank | token => simp [read, Front.cause?] at reported
  | unexpected =>
    obtain rfl : .unexpectedCharacter c = cause := by simpa [read, Front.cause?] using reported
    exact scan_of_unexpected line read
  | unterminated =>
    obtain rfl : .unterminatedString = cause := by simpa [read, Front.cause?] using reported
    exact scan_of_unterminated line read

end Scan

/-! ## Where reading fails -/

variable {before after : List Char} {cause : SyntaxError.Cause}

theorem Boundary.reads (boundary : Boundary before after) (line : Int) : ∃ tokens, scan line before = .ok tokens := by
  induction boundary generalizing line with
  | start text => exact ⟨_, by rw [scan]⟩
  | blank blank further ih =>
    rw [scan_of_blank line (front_of_mem_blanks blank _)]
    exact ih line
  | @lexeme kind lexeme before after longest further ih =>
    have cut : lexeme ++ before <+: lexeme ++ (before ++ after) := ⟨after, List.append_assoc ..⟩
    rw [(longest.shortened (List.prefix_append ..) cut).scan_eq line]
    rcases ih (line + lexeme.count '\n') with ⟨tokens, read⟩
    exact ⟨_, by rw [read]; rfl⟩

theorem Boundary.fails (boundary : Boundary before after) (unreadable : Unreadable after cause) (line : Int) :
    scan line (before ++ after) = .error ⟨cause, line + before.count '\n'⟩ := by
  induction boundary generalizing line with
  | start text =>
    rw [List.nil_append, unreadable.scan_eq line]
    simp
  | blank blank further ih =>
    rw [List.cons_append, scan_of_blank line (front_of_mem_blanks blank _), ih unreadable, count_blank blank]
  | lexeme longest further ih =>
    rw [List.append_assoc, longest.scan_eq line, ih unreadable, List.count_append, Int.natCast_add, ← Int.add_assoc]
    rfl

theorem exists_boundary_of_fails {line : Int} {text : List Char} {e : SyntaxError}
    (failed : scan line text = .error e) :
    ∃ before after, text = before ++ after ∧ Boundary before after ∧ Unreadable after e.cause := by
  induction line, text using scan.induct with
  | case1 line =>
    rw [scan] at failed
    cases failed
  | case2 line c rest read ih =>
    rw [scan_of_blank line read] at failed
    rcases ih failed with ⟨before, after, rfl, boundary, unreadable⟩
    exact ⟨c :: before, after, rfl, .blank (mem_blanks_of_isBlank (isBlank_of_front read)) boundary, unreadable⟩
  | case3 line c rest kind lexeme further read ih =>
    rw [scan_of_token line read] at failed
    rcases ih (eq_error_of_map_eq_error failed) with ⟨before, after, rfl, boundary, unreadable⟩
    have whole := front_append read
    have longest : Longest (lexeme ++ (before ++ after)) kind lexeme := whole ▸ longest_of_front read
    exact ⟨lexeme ++ before, after, by rw [← whole, List.append_assoc], .lexeme longest boundary, unreadable⟩
  | case4 line c rest read =>
    rw [scan_of_unexpected line read] at failed
    cases failed
    exact ⟨[], c :: rest, rfl, .start _, unreadable_iff.mpr (by rw [read]; rfl)⟩
  | case5 line c rest read =>
    rw [scan_of_unterminated line read] at failed
    cases failed
    exact ⟨[], c :: rest, rfl, .start _, unreadable_iff.mpr (by rw [read]; rfl)⟩

/-! ## One place only -/

theorem Longest.unique {text lexeme lexeme' : List Char} {kind kind' : Kind} (longest : Longest text kind lexeme)
    (longest' : Longest text kind' lexeme') : lexeme = lexeme' := by
  have le := longest'.longest kind lexeme longest.spells longest.begins
  have ge := longest.longest kind' lexeme' longest'.spells longest'.begins
  exact (List.prefix_of_prefix_length_le longest.begins longest'.begins le).eq_of_length (Nat.le_antisymm le ge)

theorem Longest.head_not_mem_blanks {c : Char} {text lexeme : List Char} {kind : Kind}
    (longest : Longest (c :: text) kind lexeme) : c ∉ blanks := by
  intro blank
  obtain ⟨after, whole⟩ := longest.begins
  have read := front_of_longest longest whole
  rw [front_of_mem_blanks blank] at read
  cases read

theorem Boundary.eq_nil (boundary : Boundary before after) (unreadable : Unreadable (before ++ after) cause) :
    before = [] := by
  cases boundary with
  | start text => rfl
  | blank blank further =>
    have reported := unreadable_iff.mp unreadable
    rw [front_of_mem_blanks blank] at reported
    cases reported
  | lexeme longest further =>
    obtain ⟨c, body, rfl⟩ := List.exists_cons_of_ne_nil longest.spells.ne_nil
    rw [List.append_assoc] at unreadable
    have reported := unreadable_iff.mp unreadable
    rw [front_of_longest longest rfl] at reported
    cases reported

theorem Boundary.unique (boundary : Boundary before after) (unreadable : Unreadable after cause)
    {before' after' : List Char} {cause' : SyntaxError.Cause} (boundary' : Boundary before' after')
    (unreadable' : Unreadable after' cause') (same : before ++ after = before' ++ after') : before = before' := by
  induction boundary generalizing before' with
  | start text =>
    rw [List.nil_append] at same
    exact (boundary'.eq_nil (same ▸ unreadable)).symm
  | @blank c before after blank further ih =>
    cases boundary' with
    | start text =>
      rw [List.nil_append] at same
      exact (Boundary.blank blank further).eq_nil (same ▸ unreadable')
    | blank blank' further' =>
      obtain ⟨rfl, rest⟩ := List.cons.inj same
      rw [ih unreadable further' rest]
    | lexeme longest' further' =>
      rw [List.append_assoc] at same
      rw [← same] at longest'
      exact absurd blank longest'.head_not_mem_blanks
  | @lexeme kind lexeme before after longest further ih =>
    cases boundary' with
    | start text =>
      rw [List.nil_append] at same
      exact (Boundary.lexeme longest further).eq_nil (same ▸ unreadable')
    | blank blank' further' =>
      rw [List.append_assoc] at same
      rw [same] at longest
      exact absurd blank' longest.head_not_mem_blanks
    | lexeme longest' further' =>
      rw [List.append_assoc, List.append_assoc] at same
      obtain rfl := (same ▸ longest).unique longest'
      rw [ih unreadable further' (List.append_cancel_left same)]

/-! ## Comments -/

/-- The last token is a comment, which goes on to the end of the text. -/
def EndsInComment (tokens : List Token) : Prop :=
  ∃ ahead comment last, tokens = ahead ++ [comment, last] ∧ comment.kind = .comment

theorem scan_ne_nil (line : Int) (text : List Char) : scan line text ≠ .ok [] := by
  intro read
  have ends := ((scan_lines line text).gives [] read).1
  cases ends

theorem Boundary.lineEnd_of_comment (boundary : Boundary before after) {line : Int} {ahead : List Token}
    {comment last : Token} (read : scan line before = .ok (ahead ++ [comment, last]))
    (isComment : comment.kind = .comment) : ∀ d ∈ after.head?, d = '\n' := by
  induction boundary generalizing line ahead with
  | start text =>
    rw [scan] at read
    simp [List.singleton_eq_append_iff] at read
  | blank blank further ih =>
    rw [scan_of_blank line (front_of_mem_blanks blank _)] at read
    exact ih read
  | @lexeme kind lexeme before after longest further ih =>
    have cut : lexeme ++ before <+: lexeme ++ (before ++ after) := ⟨after, List.append_assoc ..⟩
    rw [(longest.shortened (List.prefix_append ..) cut).scan_eq line] at read
    rcases exists_of_map_eq_ok read with ⟨tokens, found, same⟩
    cases ahead with
    | cons t ahead =>
      obtain ⟨-, rfl⟩ := List.cons.inj same
      exact ih found
    | nil =>
      -- the comment is the last lexeme, and nothing but blanks is behind it
      obtain ⟨rfl, rfl⟩ := List.cons.inj same
      obtain rfl : kind = .comment := isComment
      obtain ⟨c, body, rfl⟩ := List.exists_cons_of_ne_nil longest.spells.ne_nil
      have ends := (line_ends_of_comment (front_of_longest longest rfl)).2
      cases before with
      | nil => exact ends
      | cons d before =>
        obtain rfl : d = '\n' := ends d rfl
        have newline : front '\n' before = .token .newline ['\n'] before := rfl
        rw [scan_of_token _ newline] at found
        rcases exists_of_map_eq_ok found with ⟨tokens, behind, single⟩
        obtain ⟨-, rfl⟩ := List.cons.inj single
        exact absurd behind (scan_ne_nil _ before)

theorem Unreadable.not_lineEnd {text : List Char} (unreadable : Unreadable text cause) :
    ¬ ∀ d ∈ text.head?, d = '\n' := by
  intro ends
  cases unreadable with
  | unknown solid unknown =>
    obtain rfl := ends _ rfl
    exact unknown ⟨.newline, [], rfl⟩
  | single doubled single =>
    obtain rfl := ends _ rfl
    rcases doubled with same | same <;> cases same
  | unclosed unclosed => cases ends _ rfl

end Token

open Token

/-- A text as a part that is read on its own, up to a place that reading the whole passes, and what cannot be read. -/
structure StopsAt (text before after : List Char) (cause : SyntaxError.Cause) : Prop where
  whole : text = before ++ after
  reads : ∃ tokens, tokenize (String.ofList before) = .ok tokens ∧ ¬ EndsInComment tokens
  boundary : Boundary before after
  unreadable : Unreadable after cause

theorem stopsAt_of_boundary {before after : List Char} {cause : SyntaxError.Cause} (boundary : Boundary before after)
    (unreadable : Unreadable after cause) : StopsAt (before ++ after) before after cause := by
  rcases boundary.reads 1 with ⟨tokens, read⟩
  refine ⟨rfl, ⟨tokens, by rwa [tokenize, String.toList_ofList], ?_⟩, boundary, unreadable⟩
  rintro ⟨ahead, comment, last, rfl, isComment⟩
  exact unreadable.not_lineEnd (boundary.lineEnd_of_comment read isComment)

theorem tokenize_stops (source : String) :
    (∀ e, tokenize source = .error e ↔
      ∃ before after, StopsAt source.toList before after e.cause ∧ e.line = 1 + before.count '\n') ∧
    (∀ before after before' after' cause cause', StopsAt source.toList before after cause →
      StopsAt source.toList before' after' cause' → before = before' ∧ after = after' ∧ cause = cause') ∧
    ∀ before c after cause, StopsAt source.toList before (c :: after) cause →
      cause.text =
        if c = '"' then "Unterminated string"
        else "Unexpected character: " ++ Text.quoted (String.singleton c) := by
  have fails {before after : List Char} {cause : SyntaxError.Cause}
      (stops : StopsAt source.toList before after cause) :
      tokenize source = .error ⟨cause, 1 + before.count '\n'⟩ := by
    rw [tokenize, stops.whole]
    exact stops.boundary.fails stops.unreadable 1
  refine ⟨fun e => ⟨fun failed => ?_, ?_⟩, fun before after before' after' cause cause' stops stops' => ?_,
    fun before c after cause stops => ?_⟩
  · rcases exists_boundary_of_fails failed with ⟨before, after, whole, boundary, unreadable⟩
    have stops : StopsAt source.toList before after e.cause := whole ▸ stopsAt_of_boundary boundary unreadable
    have same := Except.error.inj (failed.symm.trans (fails stops))
    exact ⟨before, after, stops, congrArg SyntaxError.line same⟩
  · rintro ⟨before, after, stops, line⟩
    rw [fails stops, ← line]
  · have same := stops.whole.symm.trans stops'.whole
    obtain rfl := stops.boundary.unique stops.unreadable stops'.boundary stops'.unreadable same
    have failed := (fails stops).symm.trans (fails stops')
    exact ⟨rfl, List.append_cancel_left same, congrArg SyntaxError.cause (Except.error.inj failed)⟩
  · cases stops.unreadable with
    | unknown solid unknown =>
      rw [if_neg fun quote : c = '"' => unknown (quote ▸ begins_quote)]
      rfl
    | single doubled single =>
      rw [if_neg (by rcases doubled with rfl | rfl <;> decide)]
      rfl
    | unclosed unclosed => rfl

namespace Sample

theorem ampersand_stops :
    StopsAt "// $\n\"&\n\" & c".toList "// $\n\"&\n\" ".toList "& c".toList (.unexpectedCharacter '&') := by
  have comment : Longest "// $\n\"&\n\" & c".toList .comment "// $".toList := longest_of_front (by rfl)
  have newline : Longest "\n\"&\n\" & c".toList .newline "\n".toList := longest_of_front (by rfl)
  have string : Longest "\"&\n\" & c".toList .string "\"&\n\"".toList := longest_of_front (by rfl)
  have boundary : Boundary " ".toList "& c".toList := .blank List.mem_cons_self (.start _)
  have boundary := @Boundary.lexeme _ "\"&\n\"".toList _ _ string boundary
  have boundary := @Boundary.lexeme _ "\n".toList _ _ newline boundary
  have boundary := @Boundary.lexeme _ "// $".toList _ _ comment boundary
  exact stopsAt_of_boundary boundary (.single (.inl rfl) (by decide))

end Sample

theorem tokenize_stops_sample :
    tokenize "// $\n\"&\n\" & c" = .error ⟨.unexpectedCharacter '&', 3⟩ ∧
      StopsAt "// $\n\"&\n\" & c".toList "// $\n\"&\n\" ".toList "& c".toList (.unexpectedCharacter '&') ∧
      (∀ before after cause, StopsAt "// $\n\"&\n\" & c".toList before after cause →
        before = "// $\n\"&\n\" ".toList) ∧
      (SyntaxError.Cause.unexpectedCharacter '&').text = "Unexpected character: '&'" := by
  rcases tokenize_stops "// $\n\"&\n\" & c" with ⟨failed, unique, text⟩
  refine ⟨(failed _).mpr ⟨_, _, Sample.ampersand_stops, by decide⟩, Sample.ampersand_stops,
    fun before after cause stops => (unique _ _ _ _ _ _ stops Sample.ampersand_stops).1, ?_⟩
  rw [text _ '&' [' ', 'c'] _ Sample.ampersand_stops]
  decide +kernel

end IndicatorScript
