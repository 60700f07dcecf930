import IndicatorScript.Number.Double
import IndicatorScript.Proofs.Expr.Printing

/-!
# Numerals are read

Every numeral of the language names a double: that of its digits, with as many of them after the point as are written
there.
-/

namespace IndicatorScript

namespace Decimal

open Token (IsNumeral isDigit)

theorem mem_digits_of_isDigit {c : Char} (digit : isDigit c = true) :
    c ∈ ['0', '1', '2', '3', '4', '5', '6', '7', '8', '9'] := by
  simp only [isDigit, Bool.and_eq_true, decide_eq_true_eq] at digit
  have low : 48 ≤ c.toNat := digit.1
  have high : c.toNat ≤ 57 := digit.2
  have cases : c.toNat = 48 ∨ c.toNat = 49 ∨ c.toNat = 50 ∨ c.toNat = 51 ∨ c.toNat = 52 ∨ c.toNat = 53 ∨
      c.toNat = 54 ∨ c.toNat = 55 ∨ c.toNat = 56 ∨ c.toNat = 57 := by omega
  rw [← Char.ofNat_toNat c]
  obtain h | h | h | h | h | h | h | h | h | h := cases <;> rw [h] <;> decide

theorem isDigit_of_isDigit {c : Char} (digit : isDigit c = true) : c.isDigit = true := by
  have mem := mem_digits_of_isDigit digit
  simp only [List.mem_cons, List.not_mem_nil, or_false] at mem
  obtain rfl | rfl | rfl | rfl | rfl | rfl | rfl | rfl | rfl | rfl := mem <;> rfl

def IsPlain (c : Char) : Prop :=
  Text.isNumberBlank c = false ∧ ((Text.digitValue? c).map Nat.digitChar).getD c = c ∧ c ≠ '_'

theorem isPlain_of_isDigit {c : Char} (digit : isDigit c = true) : IsPlain c := by
  have mem := mem_digits_of_isDigit digit
  simp only [List.mem_cons, List.not_mem_nil, or_false] at mem
  obtain rfl | rfl | rfl | rfl | rfl | rfl | rfl | rfl | rfl | rfl := mem <;>
    exact ⟨by decide, by decide, by decide⟩

theorem isPlain_point : IsPlain '.' := ⟨by decide, by decide, by decide⟩

theorem trim_of_none {blank : Char → Bool} {cs : List Char} (none : ∀ c ∈ cs, blank c = false) :
    Text.trim blank cs = cs := by
  have kept : ∀ ds : List Char, (∀ c ∈ ds, blank c = false) → ds.dropWhile blank = ds := by
    intro ds none
    cases ds with
    | nil => rfl
    | cons d ds => exact List.dropWhile_cons_of_neg (by simp [none d List.mem_cons_self])
  rw [Text.trim, kept cs none, kept cs.reverse fun c mem => none c (List.mem_reverse.mp mem), List.reverse_reverse]

theorem westernDigits_of_plain {cs : List Char} (plain : ∀ c ∈ cs, IsPlain c) : westernDigits cs = cs := by
  rw [westernDigits, trim_of_none fun c mem => (plain c mem).1]
  exact (List.map_congr_left fun c mem => (plain c mem).2.1).trans cs.map_id

theorem dropUnderscores?_of_plain (previous : Char) {cs : List Char} (plain : ∀ c ∈ cs, IsPlain c) :
    dropUnderscores? previous cs = some cs := by
  induction cs generalizing previous with
  | nil => rfl
  | cons c rest ih =>
    have other : c ≠ '_' := (plain c List.mem_cons_self).2.2
    have kept := ih c fun d mem => plain d (List.mem_cons_of_mem c mem)
    rw [dropUnderscores?.eq_def]
    split
    · next h => cases h
    · next h => exact absurd (List.cons.inj h).1 other
    · next h => exact absurd (List.cons.inj h).1 other
    · next h =>
      obtain ⟨rfl, rfl⟩ := List.cons.inj h
      rw [kept]
      rfl

theorem takeSign_of_digit {c : Char} (digit : isDigit c = true) (rest : List Char) :
    takeSign (c :: rest) = (false, c :: rest) := by
  have mem := mem_digits_of_isDigit digit
  simp only [List.mem_cons, List.not_mem_nil, or_false] at mem
  obtain rfl | rfl | rfl | rfl | rfl | rfl | rfl | rfl | rfl | rfl := mem <;> rfl

theorem ofWord?_of_digit {c : Char} (digit : isDigit c = true) (rest : List Char) :
    ofWord? (String.ofList ((c :: rest).map Char.toLower)) = none := by
  have other : ∀ (d : Char) (ds : List Char), isDigit d = false →
      String.ofList ((c :: rest).map Char.toLower) ≠ String.ofList (d :: ds) := by
    intro d ds letter same
    have front := (List.cons.inj (String.ofList_injective same)).1
    have mem := mem_digits_of_isDigit digit
    simp only [List.mem_cons, List.not_mem_nil, or_false] at mem
    obtain rfl | rfl | rfl | rfl | rfl | rfl | rfl | rfl | rfl | rfl := mem <;>
      (subst front; revert letter; decide)
  unfold ofWord?
  rw [if_neg, if_neg]
  · exact other 'n' ['a', 'n'] (by decide)
  · exact not_or.mpr ⟨other 'i' ['n', 'f'] (by decide), other 'i' ['n', 'f', 'i', 'n', 'i', 't', 'y'] (by decide)⟩

theorem takeWhile_of_all {p : Char → Bool} {cs : List Char} (all : ∀ c ∈ cs, p c) :
    cs.takeWhile p = cs ∧ cs.dropWhile p = [] := by
  have none : ∀ c ∈ ([] : List Char).head?, p c = false := nofun
  have take := Token.takeWhile_append_of_stops all none
  have drop := Token.dropWhile_append_of_stops all none
  rw [List.append_nil] at take drop
  exact ⟨take, drop⟩

theorem magnitude?_of_digits {whole fraction : List Char} (nonempty : whole ≠ []) (digits : ∀ d ∈ whole, isDigit d)
    (fractionDigits : ∀ d ∈ fraction, isDigit d) {cs : List Char}
    (written : cs = whole ∧ fraction = [] ∨ cs = whole ++ '.' :: fraction ∧ fraction ≠ []) :
    magnitude? cs = some (digitsValue (whole ++ fraction), -(fraction.length : Int)) := by
  have wholeDigits : ∀ d ∈ whole, d.isDigit := fun d mem => isDigit_of_isDigit (digits d mem)
  have furtherDigits : ∀ d ∈ fraction, d.isDigit := fun d mem => isDigit_of_isDigit (fractionDigits d mem)
  have isSome : whole.isEmpty = false := by simpa using nonempty
  obtain ⟨rfl, rfl⟩ | ⟨rfl, -⟩ := written
  · obtain ⟨take, drop⟩ := takeWhile_of_all wholeDigits
    simp [magnitude?, take, drop, isSome, exponent?]
  · have point : ∀ c ∈ ('.' :: fraction).head?, c.isDigit = false := by
      intro c hc
      cases hc
      rfl
    have take := Token.takeWhile_append_of_stops wholeDigits point
    have drop := Token.dropWhile_append_of_stops wholeDigits point
    obtain ⟨takeFurther, dropFurther⟩ := takeWhile_of_all furtherDigits
    simp [magnitude?, take, drop, takeFurther, dropFurther, isSome, exponent?]

theorem read?_of_numeral {text : String} {whole fraction : List Char} (nonempty : whole ≠ [])
    (digits : ∀ d ∈ whole, isDigit d) (fractionDigits : ∀ d ∈ fraction, isDigit d)
    (written : text.toList = whole ∧ fraction = [] ∨ text.toList = whole ++ '.' :: fraction ∧ fraction ≠ []) :
    read? text = some (toFloat (digitsValue (whole ++ fraction)) (-(fraction.length : Int))) := by
  have plain : ∀ c ∈ text.toList, IsPlain c := by
    intro c mem
    obtain ⟨same, -⟩ | ⟨same, -⟩ := written
    · rw [same] at mem
      exact isPlain_of_isDigit (digits c mem)
    · rw [same, List.mem_append, List.mem_cons] at mem
      obtain mem | rfl | mem := mem
      · exact isPlain_of_isDigit (digits c mem)
      · exact isPlain_point
      · exact isPlain_of_isDigit (fractionDigits c mem)
  obtain ⟨first, rest, begins⟩ : ∃ first rest, whole = first :: rest := List.exists_cons_of_ne_nil nonempty
  have digit : isDigit first = true := digits first (begins ▸ List.mem_cons_self)
  obtain ⟨further, front⟩ : ∃ further, text.toList = first :: further := by
    obtain ⟨same, -⟩ | ⟨same, -⟩ := written <;> rw [same, begins] <;> exact ⟨_, rfl⟩
  have magnitude := magnitude?_of_digits nonempty digits fractionDigits written
  rw [front] at magnitude
  rw [read?, westernDigits_of_plain plain, dropUnderscores?_of_plain ' ' plain, front]
  simp only [Option.bind_eq_bind, Option.bind_some, takeSign_of_digit digit further, ofWord?_of_digit digit further,
    magnitude]
  rfl

theorem read?_isSome_of_isNumeral {text : String} (isNumeral : IsNumeral text.toList) : (read? text).isSome = true := by
  obtain ⟨whole, fraction, ⟨nonempty, digits⟩, fractionDigits, written⟩ := isNumeral
  rw [read?_of_numeral nonempty digits fractionDigits written]
  rfl

end Decimal

def Numeral.ofLexeme (lexeme : String) (isNumeral : Token.IsNumeral lexeme.toList) : Numeral Float :=
  ⟨lexeme, (Decimal.read? lexeme).get (Decimal.read?_isSome_of_isNumeral isNumeral), isNumeral,
    (Option.some_get _).symm⟩

end IndicatorScript
