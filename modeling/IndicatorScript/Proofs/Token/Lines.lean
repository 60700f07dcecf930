import IndicatorScript.Proofs.Gives
import IndicatorScript.Token.Lexer

/-!
# Lines of tokens

A token stands on the line that the line breaks before it make, and the end of the script on the last one. What the
lexer cannot read it reports on a line of the text.
-/

namespace IndicatorScript

/-- The script is at fault, and not the settings or a token that the lexer does not make. -/
def SyntaxError.Cause.IsFault : SyntaxError.Cause → Prop
  | .unreadableNumber _ | .tooDeep (.incomparable _) => False
  | _ => True

namespace Token

theorem isBlank_of_front {c : Char} {rest : List Char} (read : front c rest = .blank) : isBlank c = true := by
  unfold front at read
  split at read
  · assumption
  split at read
  · cases read
  split at read
  · split at read <;> cases read
  split at read
  · split at read <;> cases read
  split at read
  · split at read
    · split at read <;> cases read
    · cases read
  split at read
  · split at read <;> cases read
  split at read
  · cases read
  split at read <;> cases read

theorem ne_newline_of_blank {c : Char} {rest : List Char} (blank : front c rest = .blank) : c ≠ '\n' := by
  rintro rfl
  cases blank

theorem count_of_front {c : Char} {rest lexeme after : List Char} {kind : Kind}
    (read : front c rest = .token kind lexeme after) :
    (c :: rest).count '\n' = lexeme.count '\n' + after.count '\n' := by
  rw [← front_append read, List.count_append]

theorem scan_lines (line : Int) (text : List Char) :
    Yields
      (fun tokens => tokens.getLast? = some ⟨.endOfScript, "", line + text.count '\n'⟩ ∧
        ∀ t ∈ tokens, line ≤ t.line ∧ t.line ≤ line + text.count '\n')
      (fun e => e.cause.IsFault ∧ line ≤ e.line ∧ e.line ≤ line + text.count '\n') (scan line text) := by
  fun_induction scan line text with
  | case1 line =>
    simp [Yields]
  | case2 line c rest blank ih =>
    rwa [List.count_cons_of_ne (ne_newline_of_blank blank)]
  | case3 line c rest kind lexeme after read ih =>
    have breaks := count_of_front read
    refine Yields.map (ih.mono (fun _ => id) fun e found => ?_) fun tokens found => ?_
    · rcases found with ⟨isFault, least, most⟩
      exact ⟨isFault, by omega, by omega⟩
    · rcases found with ⟨ends, each⟩
      have last : line + lexeme.count '\n' + after.count '\n' = line + ((c :: rest).count '\n' : Nat) := by omega
      refine ⟨?_, fun t mem => ?_⟩
      · rw [List.getLast?_cons, ends, last]
        rfl
      · rcases List.mem_cons.mp mem with rfl | mem
        · dsimp only
          omega
        · have within := each t mem
          omega
  | case4 line c rest unexpected =>
    refine ⟨trivial, ?_⟩
    dsimp only
    omega
  | case5 line c rest unterminated =>
    refine ⟨trivial, ?_⟩
    dsimp only
    omega

end Token

end IndicatorScript
