import IndicatorScript.Expr.Parser
import IndicatorScript.Proofs.Expr.Reparsing
import IndicatorScript.Proofs.Gives

/-!
# Heights of parsed expressions

How high a tree the parser builds within a given room. The first operands of a chain have given their levels back when
the operators of the chain are counted, so each of the six tiers can add as many levels as there is room. An expression
within `room` levels is at most `tallest room` high.
-/

namespace IndicatorScript

theorem separated_gives {β : Type} {p : β → Prop} {item : Parser β}
    (each : ∀ tokens, Gives (fun out => p out.1) (item tokens)) (tokens : List Token) :
    Gives (fun out => ∀ x ∈ out.1, p x) (separated item tokens) := by
  have alone : ∀ x, p x → ∀ y ∈ [x], p y := by
    intro x holds y mem
    rcases List.mem_singleton.mp mem with rfl
    exact holds
  induction tokens using separated.induct with
  | _ tokens ih =>
    rw [separated]
    refine (each tokens).bind fun out holds => ?_
    rcases out with ⟨x, rest⟩
    cases rest with
    | nil => exact .ok (alone x holds)
    | cons t after =>
      dsimp only
      split
      · next comma =>
        refine (ih t after comma).bind fun out others => .ok fun y mem => ?_
        rcases List.mem_cons.mp mem with rfl | mem
        · exact holds
        · exact others y mem
      · exact .ok (alone x holds)

theorem Gives.followed {β : Type} {p : β → Prop} {parsed : Except SyntaxError (β × List Token)}
    (part : Gives (fun out => p out.1) parsed) (bounds : Bounds) (kind : Token.Kind) (what : Expectation) :
    Gives (fun out => p out.1) (Expr.followed bounds kind what parsed) :=
  part.bind fun _ holds => (Gives.trivial _).bind fun _ _ => .ok holds

namespace Expr

variable {α : Type}

mutual

/-- The number of nodes on the longest path from the root to a leaf. -/
def height : Expr α → Nat
  | .number _ | .text _ | .boolean _ | .name _ => 1
  | .call _ arguments => greatestHeight arguments + 1
  | .binary left _ right => max left.height right.height + 1
  | .index _ position => position.height + 1

def greatestHeight : List (Expr α) → Nat
  | [] => 0
  | e :: rest => max e.height (greatestHeight rest)

end

theorem greatestHeight_le {arguments : List (Expr α)} {bound : Nat} (each : ∀ e ∈ arguments, e.height ≤ bound) :
    greatestHeight arguments ≤ bound := by
  induction arguments with
  | nil => exact Nat.zero_le bound
  | cons e rest ih =>
    have first := each e List.mem_cons_self
    have others := ih fun e mem => each e (List.mem_cons_of_mem _ mem)
    exact Nat.max_le.mpr ⟨first, others⟩

/-- The greatest height of an expression within this many levels: that of a call's argument within one level less, and
one more for the call and for each operator of the six chains around it. -/
def tallest : Nat → Nat
  | 0 => 0
  | room + 1 => tallest room + 6 * room + 1

theorem tallest_eq (room : Nat) : tallest (room + 1) = (room + 1) * (3 * room + 1) := by
  induction room with
  | zero => rfl
  | succ room ih =>
    rw [tallest, ih]
    simp only [Nat.add_mul, Nat.mul_add]
    omega

/-! ## Parsers -/

section Parsers

variable [Literal α] {bounds : Bounds}

abbrev Within (bound : Nat) (result : Except SyntaxError (Expr α × List Token)) : Prop :=
  Gives (fun out => out.1.height ≤ bound) result

/-- The greatest height of an operand of a tier. -/
def tallestOperand (tier : Tier) (room : Nat) : Nat := tallest room + 1 + (tier.rank - 1) * room

theorem tallestOperand_succ (tier : Tier) (room : Nat) :
    tallestOperand tier room + 1 ≤ tallestOperand tier (room + 1) := by
  rw [tallestOperand, tallestOperand, tallest, Nat.mul_succ]
  omega

theorem tallestOperand_add (tier : Tier) (room : Nat) :
    tallestOperand tier room + room = tallest room + 1 + tier.rank * room := by
  obtain ⟨rank, same⟩ : ∃ rank, tier.rank = rank + 1 := ⟨tier.rank - 1, by have := tier.rank_pos; omega⟩
  rw [tallestOperand, same, Nat.add_sub_cancel, Nat.add_mul]
  omega

theorem Leaf.height_le {t : Token} {e : Expr α} (leaf : Leaf t e) (bound : Nat) : e.height ≤ bound + 1 := by
  cases leaf <;> exact Nat.le_add_left 1 bound

/-- How high the trees of each parser are. -/
abbrev rising (α : Type) : Motive α where
  expression room _ := Within (tallest room)
  chained tier room _ := Within (tallest room + 1 + tier.rank * room)
  chain tier room left _ := Within (max left.height (tallestOperand tier room) + room)
  operand tier room _ := Within (tallestOperand tier room)
  signed room _ := Within (tallest room + 1)
  suffixed room _ := Within (tallest room + 1)
  suffixes room e _ _ := Within (max e.height (tallest room + 1))
  arguments room _ := Gives fun out => ∀ e ∈ out.1, height e ≤ tallest room
  primary room _ := Within (tallest room + 1)

theorem rising_productions : (rising α).Productions bounds := by
  constructor
  all_goals dsimp only
  case noRoom => exact fun _ => .error _
  case whole =>
    intro room _ _ inside
    refine inside.mono fun out within => ?_
    simp only [Tier.rank, tallest] at within ⊢
    omega
  case chained =>
    intro tier room _ _ _ first further
    refine first.bind fun out low => (further out.1 out.2).mono fun _ within => ?_
    rw [← tallestOperand_add]
    omega
  case chainNil => exact fun _ _ _ => .ok (Nat.le_trans (Nat.le_max_left _ _) (Nat.le_add_right _ _))
  case chainEnds => exact fun _ _ _ _ => .ok (Nat.le_trans (Nat.le_max_left _ _) (Nat.le_add_right _ _))
  case chainTooDeep => exact fun _ _ _ => .error _
  case chainGoesOn =>
    -- an operator and its operand raise a chain by one level, and leave room for one less
    intro tier room left _ _ _ _ _ _ operand further
    have grows := tallestOperand_succ tier room
    refine operand.bind fun out low => (further out.1 out.2).mono fun _ within => ?_
    simp only [height] at within low
    omega
  case tighter =>
    intro tier next room _ _ isNext chain
    rw [tallestOperand, ← Tier.rank_of_tighter isNext]
    exact chain
  case tightest =>
    intro tier room _ _ tightest signed
    rw [tallestOperand, Tier.rank_of_tightest tightest, Nat.sub_self, Nat.zero_mul]
    exact signed
  case signNil => exact id
  case signTooDeep => exact fun _ _ => .error _
  case sign =>
    intro room _ _ _ _ operand
    refine operand.bind fun _ low => .ok ?_
    simp only [height, tallest] at low ⊢
    omega
  case unsigned => exact fun _ suffixed => suffixed
  case suffixed =>
    intro room _ _ _ first further
    refine first.bind fun out low => (further out.1 out.2).mono fun _ within => ?_
    omega
  case suffixNil => exact fun _ _ _ => .ok (Nat.le_max_left _ _)
  case suffixEnds => exact fun _ _ _ _ _ _ => .ok (Nat.le_max_left _ _)
  case call =>
    intro room function _ _ _ _ e _ inside further
    refine inside.bind fun out low => (further out.1 out.2).mono fun _ within => ?_
    have low : greatestHeight out.1 ≤ tallest room := greatestHeight_le low
    simp only [height] at within
    omega
  case notCallable => exact fun _ _ inside => inside.bind fun _ _ => .error _
  case index =>
    intro room series _ _ _ e _ _ _ inside further
    refine inside.bind fun out low => (Gives.trivial _).bind fun closing _ => ?_
    refine (further out.1 closing.2).mono fun _ within => ?_
    simp only [height] at within low
    omega
  case notIndexable =>
    exact fun _ _ _ inside => inside.bind fun _ _ => (Gives.trivial _).bind fun _ _ => .error _
  case noArguments =>
    intro tokens room _
    refine Gives.followed (p := fun arguments => ∀ e ∈ arguments, height e ≤ tallest room) (.ok ?_) _ _ _
    exact fun _ mem => absurd mem List.not_mem_nil
  case arguments =>
    intro room tokens _ each
    refine Gives.followed (p := fun arguments => ∀ e ∈ arguments, height e ≤ tallest room) ?_ _ _ _
    exact separated_gives (p := fun e => height e ≤ tallest room) each tokens
  case primaryNil => exact fun _ => .error _
  case leaf => exact fun _ _ leaf => .ok (leaf.height_le _)
  case unreadable => exact fun _ _ _ _ => .error _
  case parenthesised =>
    intro room _ _ _ _ inside
    refine Gives.followed (p := fun e => height e ≤ tallest room + 1) ?_ _ _ _
    exact inside.mono fun _ low => Nat.le_succ_of_le low
  case noStart => exact fun _ _ _ => .error _

theorem height_le_tallest (bounds : Bounds) (room : Nat) (tokens : List Token) :
    Within (tallest room) (expression (α := α) bounds room tokens) :=
  (Motive.of_productions rising_productions).expression room tokens

end Parsers

end Expr

end IndicatorScript
