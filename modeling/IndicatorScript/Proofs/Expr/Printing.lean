import IndicatorScript.Expr.Kind
import IndicatorScript.Expr.Parser
import IndicatorScript.Proofs.Token.Layout

/-!
# Printing expressions

The words of an expression, with parentheses only around an operand that binds more loosely than its place allows: on
the left of an operator a chain of its own tier may stand bare, on its right and behind an exclamation mark only what
binds more tightly. `Expr.levels` is how many levels a printed expression nests.
-/

namespace IndicatorScript

open Token (Word)

/-- A number as it is written, and what it is read as. -/
structure Numeral (α : Type) [Literal α] where
  lexeme : String
  value : α
  isNumeral : Token.IsNumeral lexeme.toList
  reads : Literal.read? lexeme = some value

/-! ## Operators -/

def Arithmetic.kind : Arithmetic → Token.Kind
  | .add => .plus
  | .subtract => .minus
  | .multiply => .star
  | .divide => .slash

def Test.kind : Test → Token.Kind
  | .greater => .greater
  | .less => .less
  | .greaterEqual => .greaterEqual
  | .lessEqual => .lessEqual
  | .equal => .equalEqual
  | .notEqual => .bangEqual
  | .and => .and
  | .or => .or
  | .not => .bang

namespace Operator

def word : Operator → Word
  | .arithmetic op => ⟨op.kind, op.symbol⟩
  | .test op => ⟨op.kind, op.symbol⟩
  | .unknown symbol => ⟨.identifier, symbol⟩

def tier? (op : Operator) : Option Tier := Tier.ofKind? op.word.kind

theorem tier?_eq_none_iff {op : Operator} : op.tier? = none ↔ op = .test .not ∨ ∃ symbol, op = .unknown symbol := by
  cases op with
  | arithmetic op => cases op <;> simp [tier?, word, Arithmetic.kind, Tier.ofKind?]
  | test op => cases op <;> simp [tier?, word, Test.kind, Tier.ofKind?]
  | unknown symbol => simp [tier?, word, Tier.ofKind?]

theorem operator?_of_word {op : Operator} {tier : Tier} {t : Token} (isTier : op.tier? = some tier)
    (printed : t.word = op.word) : tier.operator? t = some op := by
  obtain ⟨kind, lexeme⟩ : t.kind = op.word.kind ∧ t.lexeme = op.word.lexeme := Word.mk.inj printed
  unfold Tier.operator?
  unfold tier? at isTier
  rw [kind, lexeme, if_pos isTier]
  cases op with
  | arithmetic op => cases op <;> cases isTier <;> rfl
  | test op => cases op <;> cases isTier <;> rfl
  | unknown symbol => cases isTier

theorem word_spelled {op : Operator} (known : ∀ symbol, op ≠ .unknown symbol) : op.word.Spelled := by
  cases op with
  | arithmetic op => cases op <;> rfl
  | test op =>
    cases op with
    | and | or => exact .inl rfl
    | _ => rfl
  | unknown symbol => exact absurd rfl (known symbol)

end Operator

/-! ## Words -/

def enclosed (needed : Bool) (words : List Word) : List Word :=
  if needed then ⟨.leftParen, "("⟩ :: words ++ [⟨.rightParen, ")"⟩] else words

namespace Expr

variable {α β : Type}

mutual

def map (f : α → β) : Expr α → Expr β
  | .number x => .number (f x)
  | .text s => .text s
  | .boolean b => .boolean b
  | .name n => .name n
  | .call function arguments => .call function (mapAll f arguments)
  | .binary left op right => .binary (left.map f) op (right.map f)
  | .index series position => .index series (position.map f)

def mapAll (f : α → β) : List (Expr α) → List (Expr β)
  | [] => []
  | e :: rest => e.map f :: mapAll f rest

end

theorem mapAll_eq (f : α → β) (arguments : List (Expr α)) : mapAll f arguments = arguments.map (map f) := by
  induction arguments with
  | nil => rfl
  | cons e rest ih => rw [mapAll, ih, List.map_cons]

/-- How loosely an expression binds: as its operator does, and all else most tightly. -/
def looseness : Expr α → Nat
  | .binary _ op _ => (op.tier?.map Tier.rank).getD 0
  | _ => 0

/-- How many operators of a tier follow the first operand of a printed expression. -/
def spine (tier : Tier) : Expr α → Nat
  | .binary left op _ => if op.tier? = some tier then left.spine tier + 1 else 0
  | _ => 0

mutual

def words [Literal α] : Expr (Numeral α) → List Word
  | .number n => [⟨.number, n.lexeme⟩]
  | .text s => [⟨.string, "\"" ++ s ++ "\""⟩]
  | .boolean b => [⟨.boolean, if b then "true" else "false"⟩]
  | .name n => [⟨.identifier, n⟩]
  | .call function arguments =>
      ⟨.identifier, function⟩ :: ⟨.leftParen, "("⟩ :: argumentWords arguments ++ [⟨.rightParen, ")"⟩]
  | .binary left op right =>
      match op.tier? with
      | some tier =>
          enclosed (tier.rank < left.looseness) left.words ++
            op.word :: enclosed (tier.rank ≤ right.looseness) right.words
      | none => op.word :: enclosed (0 < right.looseness) right.words
  | .index series position =>
      ⟨.identifier, series⟩ :: ⟨.leftBracket, "["⟩ :: position.words ++ [⟨.rightBracket, "]"⟩]

def argumentWords [Literal α] : List (Expr (Numeral α)) → List Word
  | [] => []
  | e :: rest => e.words ++ furtherWords rest

def furtherWords [Literal α] : List (Expr (Numeral α)) → List Word
  | [] => []
  | e :: rest => ⟨.comma, ","⟩ :: e.words ++ furtherWords rest

end

section Operation

variable [Literal α] {left right : Expr (Numeral α)} {op : Operator} {tier : Tier}

theorem words_of_tier (isTier : op.tier? = some tier) :
    (binary left op right).words =
      enclosed (tier.rank < left.looseness) left.words ++
        op.word :: enclosed (tier.rank ≤ right.looseness) right.words := by
  rw [words, isTier]

theorem words_of_sign (isSign : op.tier? = none) :
    (binary left op right).words = op.word :: enclosed (0 < right.looseness) right.words := by
  rw [words, isSign]

end Operation

/-! ## What can be printed -/

mutual

/-- Names are words of the language, texts hold no quote, and a negation looks at a zero and its operand. -/
def Printable [Literal α] : Expr (Numeral α) → Prop
  | .number _ | .boolean _ => True
  | .text s => '"' ∉ s.toList
  | .name n => Token.IsName n.toList
  | .call function arguments => Token.IsName function.toList ∧ AllPrintable arguments
  | .binary left op right =>
      (match op with
        | .unknown _ => False
        | .test .not => ∃ n : Numeral α, left = .number n ∧ n.value = Literal.zero
        | _ => True) ∧ left.Printable ∧ right.Printable
  | .index series position => Token.IsName series.toList ∧ position.Printable

def AllPrintable [Literal α] : List (Expr (Numeral α)) → Prop
  | [] => True
  | e :: rest => e.Printable ∧ AllPrintable rest

end

/-! ## Levels -/

mutual

/-- How many levels an expression nests below its own, printed. -/
def levels : Expr α → Nat
  | .number _ | .text _ | .boolean _ | .name _ => 0
  | .call _ arguments => argumentLevels arguments
  | .binary left op right =>
      match op.tier? with
      | some tier =>
          max (left.levels + (decide (tier.rank < left.looseness)).toNat)
            (left.spine tier + 1 + (right.levels + (decide (tier.rank ≤ right.looseness)).toNat))
      | none => 1 + (right.levels + (decide (0 < right.looseness)).toNat)
  | .index _ position => 1 + position.levels

def argumentLevels : List (Expr α) → Nat
  | [] => 0
  | e :: rest => max (1 + e.levels) (argumentLevels rest)

end

theorem levels_of_tier {left right : Expr α} {op : Operator} {tier : Tier} (isTier : op.tier? = some tier) :
    (binary left op right).levels =
      max (left.levels + (decide (tier.rank < left.looseness)).toNat)
        (left.spine tier + 1 + (right.levels + (decide (tier.rank ≤ right.looseness)).toNat)) := by
  rw [levels, isTier]

theorem levels_of_sign {left right : Expr α} {op : Operator} (isSign : op.tier? = none) :
    (binary left op right).levels = 1 + (right.levels + (decide (0 < right.looseness)).toNat) := by
  rw [levels, isSign]

/-! ## Printed words are spelled right -/

theorem enclosed_spelled {needed : Bool} {words : List Word} (spelled : ∀ w ∈ words, w.Spelled ∧ w.kind ≠ .comment) :
    ∀ w ∈ enclosed needed words, w.Spelled ∧ w.kind ≠ .comment := by
  intro w mem
  unfold enclosed at mem
  split at mem
  · simp only [List.cons_append, List.mem_cons, List.mem_append, List.not_mem_nil, or_false] at mem
    obtain rfl | mem | rfl := mem
    · exact ⟨rfl, by decide⟩
    · exact spelled w mem
    · exact ⟨rfl, by decide⟩
  · exact spelled w mem

variable [Literal α]

theorem argumentWords_spelled {arguments : List (Expr (Numeral α))}
    (each : ∀ e ∈ arguments, ∀ w ∈ e.words, w.Spelled ∧ w.kind ≠ .comment) :
    ∀ w ∈ argumentWords arguments, w.Spelled ∧ w.kind ≠ .comment := by
  have further : ∀ rest : List (Expr (Numeral α)), (∀ e ∈ rest, ∀ w ∈ e.words, w.Spelled ∧ w.kind ≠ .comment) →
      ∀ w ∈ furtherWords rest, w.Spelled ∧ w.kind ≠ .comment := by
    intro rest
    induction rest with
    | nil => intro _ w mem; cases mem
    | cons e rest ih =>
      intro each w mem
      simp only [furtherWords, List.cons_append, List.mem_cons, List.mem_append] at mem
      obtain rfl | mem | mem := mem
      · exact ⟨rfl, by decide⟩
      · exact each e List.mem_cons_self w mem
      · exact ih (fun e mem => each e (List.mem_cons_of_mem _ mem)) w mem
  cases arguments with
  | nil => intro w mem; cases mem
  | cons e rest =>
    intro w mem
    rw [argumentWords, List.mem_append] at mem
    obtain mem | mem := mem
    · exact each e List.mem_cons_self w mem
    · exact further rest (fun e mem => each e (List.mem_cons_of_mem _ mem)) w mem

theorem AllPrintable.of_mem {arguments : List (Expr (Numeral α))} (all : AllPrintable arguments)
    {e : Expr (Numeral α)} (mem : e ∈ arguments) : e.Printable := by
  induction arguments with
  | nil => cases mem
  | cons first rest ih =>
    obtain rfl | mem := List.mem_cons.mp mem
    · exact all.1
    · exact ih all.2 mem

theorem Printable.known {left right : Expr (Numeral α)} {op : Operator} (printable : (binary left op right).Printable) :
    ∀ symbol, op ≠ .unknown symbol := by
  rintro symbol rfl
  exact printable.1

theorem words_spelled {e : Expr (Numeral α)} (printable : e.Printable) :
    ∀ w ∈ e.words, w.Spelled ∧ w.kind ≠ .comment := by
  induction e using Expr.induction with
  | number n =>
    intro w mem
    obtain rfl := List.mem_singleton.mp mem
    exact ⟨n.isNumeral, by simp⟩
  | text s =>
    intro w mem
    obtain rfl := List.mem_singleton.mp mem
    exact ⟨⟨s.toList, printable, by simp⟩, by simp⟩
  | boolean b =>
    intro w mem
    obtain rfl := List.mem_singleton.mp mem
    cases b
    · exact ⟨.inr rfl, by simp⟩
    · exact ⟨.inl rfl, by simp⟩
  | name n =>
    intro w mem
    obtain rfl := List.mem_singleton.mp mem
    exact ⟨printable, by simp⟩
  | call function arguments ih =>
    intro w mem
    simp only [words, List.cons_append, List.mem_cons, List.mem_append, List.not_mem_nil, or_false] at mem
    obtain rfl | rfl | mem | rfl := mem
    · exact ⟨printable.1, by simp⟩
    · exact ⟨rfl, by simp⟩
    · exact argumentWords_spelled (fun e mem => ih e mem (printable.2.of_mem mem)) w mem
    · exact ⟨rfl, by simp⟩
  | binary left op right ihLeft ihRight =>
    obtain ⟨form, leftPrintable, rightPrintable⟩ := id printable
    have operator : op.word.Spelled ∧ op.word.kind ≠ .comment := by
      refine ⟨Operator.word_spelled printable.known, ?_⟩
      cases op with
      | arithmetic op => cases op <;> decide
      | test op => cases op <;> decide
      | unknown symbol => exact form.elim
    have leftWords := ihLeft leftPrintable
    have rightWords := ihRight rightPrintable
    intro w mem
    rw [words] at mem
    split at mem
    · simp only [List.mem_append, List.mem_cons] at mem
      obtain mem | rfl | mem := mem
      · exact enclosed_spelled leftWords w mem
      · exact operator
      · exact enclosed_spelled rightWords w mem
    · obtain rfl | mem := List.mem_cons.mp mem
      · exact operator
      · exact enclosed_spelled rightWords w mem
  | index series position ih =>
    intro w mem
    simp only [words, List.cons_append, List.mem_cons, List.mem_append, List.not_mem_nil, or_false] at mem
    obtain rfl | rfl | mem | rfl := mem
    · exact ⟨printable.1, by simp⟩
    · exact ⟨rfl, by simp⟩
    · exact ih printable.2 w mem
    · exact ⟨rfl, by simp⟩

/-! ## Levels and words -/

omit [Literal α] in
theorem spine_le_levels (tier : Tier) (e : Expr α) : e.spine tier ≤ e.levels := by
  cases e with
  | binary left op right =>
    rw [spine]
    split
    · next isTier =>
      simp only [levels, isTier]
      omega
    · exact Nat.zero_le _
  | _ => exact Nat.zero_le _

theorem length_enclosed (needed : Bool) (words : List Word) :
    (enclosed needed words).length = words.length + 2 * needed.toNat := by
  cases needed <;> simp [enclosed]

theorem argumentLevels_le_length {arguments : List (Expr (Numeral α))}
    (each : ∀ e ∈ arguments, e.levels < e.words.length) :
    argumentLevels arguments ≤ (argumentWords arguments).length := by
  have further : ∀ rest : List (Expr (Numeral α)), (∀ e ∈ rest, e.levels < e.words.length) →
      argumentLevels rest ≤ (furtherWords rest).length := by
    intro rest
    induction rest with
    | nil => intro _; exact Nat.zero_le _
    | cons e rest ih =>
      intro each
      have first := each e List.mem_cons_self
      have others := ih fun e mem => each e (List.mem_cons_of_mem _ mem)
      simp only [argumentLevels, furtherWords, List.cons_append, List.length_cons, List.length_append]
      omega
  cases arguments with
  | nil => exact Nat.zero_le _
  | cons e rest =>
    have first := each e List.mem_cons_self
    have others := further rest fun e mem => each e (List.mem_cons_of_mem _ mem)
    simp only [argumentLevels, argumentWords, List.length_append]
    omega

theorem levels_lt_length_words (e : Expr (Numeral α)) : e.levels < e.words.length := by
  induction e using Expr.induction with
  | number | text | boolean | name => exact Nat.zero_lt_one
  | call function arguments ih =>
    have inner := argumentLevels_le_length ih
    simp only [levels, words, List.cons_append, List.length_cons, List.length_append]
    omega
  | binary left op right ihLeft ihRight =>
    rw [levels, words]
    split
    · next tier _ =>
      have spine := left.spine_le_levels tier
      simp only [List.length_append, List.length_cons, length_enclosed]
      omega
    · simp only [List.length_cons, length_enclosed]
      omega
  | index series position ih =>
    simp only [levels, words, List.cons_append, List.length_cons, List.length_append]
    omega

end Expr

end IndicatorScript
