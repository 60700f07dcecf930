import Mathlib.Order.Basic
import IndicatorScript.Proofs.Token.Lines
import IndicatorScript.Proofs.Token.Scan

/-!
# The pieces of a text

A text that can be read falls into pieces, each a token with the blanks in front of it, and the blanks at the end.
Nothing but blanks is left out, and a token stands on the line of its first character (`tokenize_pieces`).
-/

namespace IndicatorScript.Token

structure Piece where
  gap : List Char
  token : Token

def Piece.text (piece : Piece) : List Char := piece.gap ++ piece.token.lexeme.toList

def Piece.together (pieces : List Piece) : List Char := pieces.flatMap Piece.text

def blanks : List Char := [' ', '\t', '\r']

/-- The pieces and the ending make up the text, whose first character stands on the given line. -/
structure Cover (line : Int) (text : List Char) (pieces : List Piece) (ending : List Char) : Prop where
  whole : text = Piece.together pieces ++ ending
  gaps : ∀ piece ∈ pieces, ∀ c ∈ piece.gap, c ∈ blanks
  ending : ∀ c ∈ ending, c ∈ blanks
  lines : ∀ before piece after, pieces = before ++ piece :: after →
    piece.token.line = line + (Piece.together before ++ piece.gap).count '\n'

theorem mem_blanks_of_isBlank {c : Char} (blank : isBlank c = true) : c ∈ blanks := by
  simpa [isBlank, blanks, or_assoc] using blank

theorem count_blank {c : Char} {text : List Char} (blank : c ∈ blanks) : (c :: text).count '\n' = text.count '\n' := by
  refine List.count_cons_of_ne ?_
  rintro rfl
  revert blank
  decide

section Cover

variable {line : Int} {text ending : List Char} {pieces : List Piece}

theorem Cover.nil (line : Int) : Cover line [] [] [] where
  whole := rfl
  gaps := fun _ mem => absurd mem List.not_mem_nil
  ending := fun _ mem => absurd mem List.not_mem_nil
  lines := fun before _ _ same => absurd same.symm (List.append_ne_nil_of_right_ne_nil before nofun)

theorem Cover.blank (cover : Cover line text pieces ending) {c : Char} (blank : c ∈ blanks) :
    ∃ pieces' ending', Cover line (c :: text) pieces' ending' ∧ pieces'.map Piece.token = pieces.map Piece.token := by
  cases pieces with
  | nil =>
    refine ⟨[], c :: ending, ⟨congrArg (c :: ·) cover.whole, cover.gaps, fun d mem => ?_, cover.lines⟩, rfl⟩
    rcases List.mem_cons.mp mem with rfl | mem
    · exact blank
    · exact cover.ending d mem
  | cons first rest =>
    refine ⟨⟨c :: first.gap, first.token⟩ :: rest, ending, ⟨congrArg (c :: ·) cover.whole, fun piece mem => ?_,
      cover.ending, fun before piece after same => ?_⟩, rfl⟩
    · rcases List.mem_cons.mp mem with rfl | mem
      · intro d mem
        rcases List.mem_cons.mp mem with rfl | mem
        · exact blank
        · exact cover.gaps first List.mem_cons_self d mem
      · exact cover.gaps piece (List.mem_cons_of_mem _ mem)
    · cases before with
      | nil =>
        obtain ⟨rfl, rfl⟩ := List.cons.inj same
        have first := cover.lines [] _ rest rfl
        rwa [← count_blank blank] at first
      | cons other before =>
        obtain ⟨rfl, rfl⟩ := List.cons.inj same
        have further := cover.lines (first :: before) piece after rfl
        rwa [← count_blank blank] at further

theorem Cover.token {lexeme : List Char} (kind : Kind) (cover : Cover (line + lexeme.count '\n') text pieces ending) :
    Cover line (lexeme ++ text) (⟨[], ⟨kind, String.ofList lexeme, line⟩⟩ :: pieces) ending where
  whole := by
    rw [cover.whole]
    simp [Piece.together, Piece.text]
  gaps piece mem := by
    rcases List.mem_cons.mp mem with rfl | mem
    · exact fun _ mem => absurd mem List.not_mem_nil
    · exact cover.gaps piece mem
  ending := cover.ending
  lines before piece after same := by
    cases before with
    | nil =>
      obtain ⟨rfl, rfl⟩ := List.cons.inj same
      simp [Piece.together]
    | cons first before =>
      obtain ⟨rfl, rfl⟩ := List.cons.inj same
      rw [cover.lines before piece after rfl]
      simp [Piece.together, Piece.text]
      omega

end Cover

theorem scan_pieces (line : Int) (text : List Char) :
    Gives (fun tokens => ∃ pieces ending, Cover line text pieces ending ∧
      tokens = pieces.map Piece.token ++ [⟨.endOfScript, "", line + text.count '\n'⟩]) (scan line text) := by
  fun_induction scan line text with
  | case1 line => exact .ok ⟨[], [], .nil line, by simp⟩
  | case2 line c rest read ih =>
    have blank : c ∈ blanks := mem_blanks_of_isBlank (isBlank_of_front read)
    refine ih.mono fun tokens found => ?_
    rcases found with ⟨pieces, ending, cover, rfl⟩
    rcases cover.blank blank with ⟨pieces', ending', cover', same⟩
    exact ⟨pieces', ending', cover', by rw [same, count_blank blank]⟩
  | case3 line c rest kind lexeme after read ih =>
    have last : line + lexeme.count '\n' + after.count '\n' = line + ((c :: rest).count '\n' : Nat) := by
      rw [count_of_front read]
      omega
    refine ih.map fun others found => ?_
    rcases found with ⟨pieces, ending, cover, rfl⟩
    refine ⟨_, ending, front_append read ▸ cover.token kind, ?_⟩
    rw [last]
    rfl
  | case4 => exact .error _
  | case5 => exact .error _

end IndicatorScript.Token

namespace IndicatorScript

open Token

theorem tokenize_pieces (source : String) {tokens : List Token} (read : tokenize source = .ok tokens) :
    ∃ pieces ending, Cover 1 source.toList pieces ending ∧
      tokens = pieces.map Piece.token ++ [⟨.endOfScript, "", 1 + source.toList.count '\n'⟩] ∧
      ∀ piece ∈ pieces, piece.token.kind ≠ .endOfScript ∧ piece.token.word.Spelled := by
  rcases scan_pieces 1 source.toList tokens read with ⟨pieces, ending, cover, rfl⟩
  rcases scan_spelled 1 source.toList _ read with ⟨spelled, last, same, each⟩
  obtain ⟨rfl, -⟩ := List.append_inj' same rfl
  refine ⟨pieces, ending, cover, rfl, fun piece mem => ?_⟩
  have mem : piece.token ∈ pieces.map Piece.token := List.mem_map_of_mem mem
  exact ⟨each.inside mem, each piece.token mem⟩

theorem tokenize_pieces_sample :
    ∃ tokens, tokenize "t = \"a\nb\" \n\tc" = .ok tokens ∧
      tokens.map Token.line = [1, 1, 1, 2, 3, 3] ∧
      ∃ pieces ending, Cover 1 "t = \"a\nb\" \n\tc".toList pieces ending ∧
        tokens = pieces.map Piece.token ++ [⟨.endOfScript, "", 3⟩] := by
  refine ⟨_, by cbv, rfl, ?_⟩
  rcases tokenize_pieces "t = \"a\nb\" \n\tc" (by cbv) with ⟨pieces, ending, cover, same, -⟩
  exact ⟨pieces, ending, cover, same⟩

end IndicatorScript
