import IndicatorScript.Proofs.Token.Layout
import IndicatorScript.Proofs.Token.Reads

/-!
# What the lexer makes

Whatever stands at the front of a text, the lexer makes a token of it that is spelled as its kind demands.
-/

namespace IndicatorScript.Token

theorem number_isNumeral {c : Char} (rest : List Char) (digit : isDigit c = true) :
    IsNumeral (number (c :: rest)).1 := by
  have digits : ∀ d ∈ (c :: rest).takeWhile isDigit, isDigit d := List.all_eq_true.mp List.all_takeWhile
  have nonempty : (c :: rest).takeWhile isDigit ≠ [] := by simp [digit]
  unfold number
  split
  · next d after _ =>
    split
    · next further =>
      refine ⟨_, d :: after.takeWhile isDigit, ⟨nonempty, digits⟩, ?_, .inr ⟨rfl, by simp⟩⟩
      intro e mem
      rcases List.mem_cons.mp mem with rfl | mem
      · exact further
      · exact List.all_eq_true.mp List.all_takeWhile e mem
    · exact ⟨_, [], ⟨nonempty, digits⟩, List.all_eq_true.mp rfl, .inl ⟨rfl, rfl⟩⟩
  · exact ⟨_, [], ⟨nonempty, digits⟩, List.all_eq_true.mp rfl, .inl ⟨rfl, rfl⟩⟩

theorem wordKind_spells {c : Char} {rest : List Char} (start : isNameStart c = true)
    (chars : ∀ d ∈ rest, isNameChar d) :
    (wordKind (c :: rest)).Spells (c :: rest) := by
  cases kind : wordKind (c :: rest) with
  | identifier => exact ⟨c, rest, rfl, start, chars, kind⟩
  | _ =>
    unfold wordKind at kind
    split at kind
    · next isBoolean =>
      cases kind
      try exact isBoolean
    split at kind
    · next isAnd =>
      cases kind
      try exact .inl isAnd
    split at kind
    · next isOr =>
      cases kind
      try exact .inl isOr
    · cases kind

theorem front_spells {c : Char} {rest lexeme after : List Char} {kind : Kind}
    (h : front c rest = .token kind lexeme after) : kind.Spells lexeme := by
  unfold front at h
  split at h
  · cases h
  split at h
  · next single =>
    cases h
    unfold singleKind? at single
    split at single <;> cases single <;> rfl
  split at h
  · next isSlash =>
    subst isSlash
    split at h
    · next again =>
      cases h
      cases rest with
      | nil => cases again
      | cons d rest =>
        cases again
        refine ⟨rest.takeWhile (· ≠ '\n'), fun mem => ?_, by simp⟩
        simpa using List.all_eq_true.mp List.all_takeWhile _ mem
    · cases h
      rfl
  split at h
  · next alone followed comparison =>
    unfold comparisonKinds? at comparison
    split at comparison <;> cases comparison <;> split at h <;> cases h <;> rfl
  split at h
  · next doubled =>
    unfold doubledKind? at doubled
    split at h
    · split at h
      · cases h
        split at doubled <;> cases doubled <;> exact .inr rfl
      · cases h
    · cases h
  split at h
  · next isQuote =>
    subst isQuote
    split at h
    · next close _ dropped =>
      cases h
      have closes : close = '"' := by
        have stops := List.head?_dropWhile_not (p := (· ≠ '"')) (l := rest)
        rw [dropped] at stops
        simpa using stops
      subst closes
      refine ⟨rest.takeWhile (· ≠ '"'), fun mem => ?_, rfl⟩
      simpa using List.all_eq_true.mp List.all_takeWhile _ mem
    · cases h
  split at h
  · next digit =>
    cases h
    exact number_isNumeral rest digit
  split at h
  · next start =>
    cases h
    exact wordKind_spells start (List.all_eq_true.mp List.all_takeWhile)
  · cases h

theorem scan_spelled (line : Int) (text : List Char) :
    Gives (fun tokens => ∃ spelled last, tokens = spelled ++ [⟨.endOfScript, "", last⟩] ∧ Spelled spelled)
      (scan line text) := by
  induction line, text using scan.induct with
  | case1 line =>
    rw [scan]
    exact .ok ⟨[], line, rfl, fun t mem => absurd mem List.not_mem_nil⟩
  | case2 line c rest blank ih =>
    rw [scan]
    split <;> simp_all
  | case3 line c rest kind lexeme after read ih =>
    rw [scan]
    split
    · simp_all
    · next k l a again =>
      obtain ⟨rfl, rfl, rfl⟩ := Front.token.inj (read.symm.trans again)
      intro tokens same
      cases further : scan (line + lexeme.count '\n') after with
      | error e =>
        rw [further] at same
        cases same
      | ok tokens =>
        rw [further] at same
        cases same
        rcases ih tokens further with ⟨spelled, last, rfl, each⟩
        refine ⟨_ :: spelled, last, rfl, fun t mem => ?_⟩
        rcases List.mem_cons.mp mem with rfl | mem
        · have spells := front_spells read
          rwa [← String.toList_ofList (l := lexeme)] at spells
        · exact each t mem
    all_goals simp_all
  | case4 line c rest unexpected =>
    rw [scan]
    split <;> simp_all [Gives]
  | case5 line c rest unterminated =>
    rw [scan]
    split <;> simp_all [Gives]

end IndicatorScript.Token

namespace IndicatorScript

theorem tokenize_spelled (source : String) :
    Gives (fun tokens => Spelled (tokens.takeWhile (·.kind ≠ .endOfScript))) (tokenize source) := by
  refine (Token.scan_spelled 1 source.toList).mono fun tokens made => ?_
  rcases made with ⟨spelled, last, rfl, each⟩
  have inside : ∀ t ∈ spelled, decide (t.kind ≠ .endOfScript) = true := fun t mem => decide_eq_true (each.inside mem)
  rw [List.takeWhile_append_of_pos inside]
  simpa using each

end IndicatorScript
