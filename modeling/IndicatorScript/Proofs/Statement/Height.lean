import IndicatorScript.Proofs.Expr.Height
import IndicatorScript.Proofs.Statement.Reparsing

/-!
# How high the trees of a script are

`parse_height`: under a limit of `depth` levels no tree is higher than `depth * (3 * depth - 2)`, some tree is that
high, and so the limit bounds the heights themselves only where it allows at most one level.
-/

namespace IndicatorScript

variable {α : Type}

/-! ## An upper bound -/

namespace Statement

abbrev Low (room : Nat) (statement : Statement α) : Prop := ∀ e ∈ statement.expressions, e.height ≤ Expr.tallest room

theorem low_declaration {room : Nat} {declared : List String} {name : String} {value : Expr α}
    (low : value.height ≤ Expr.tallest room) : Low room (declaration declared name value) := by
  intro e mem
  unfold declaration at mem
  split at mem <;> rcases List.mem_singleton.mp mem with rfl <;> exact low

variable [Literal α] (bounds : Bounds) (room : Nat)

theorem plotted_low (tokens : List Token) :
    Gives (fun out => out.1.height ≤ Expr.tallest room) (plotted (α := α) bounds room tokens) := by
  unfold plotted
  exact (Gives.trivial _).bind fun _ _ => (Expr.height_le_tallest bounds _ _).bind fun _ low =>
    (Gives.trivial _).bind fun _ _ => .ok low

theorem clause_low (declared : List String) (tokens : List Token) :
    Gives (fun out => Low room out.1) (clause (α := α) bounds room declared tokens) := by
  unfold clause
  split
  · exact .error _
  split
  · exact .error _
  split
  · exact (Gives.trivial _).bind fun _ _ => .ok fun _ mem => absurd mem List.not_mem_nil
  split
  · exact (Expr.height_le_tallest bounds _ _).bind fun _ low => .ok (low_declaration low)
  split
  · refine (plotted_low bounds room _).bind fun _ low => .ok fun e mem => ?_
    rcases List.mem_singleton.mp mem with rfl
    exact low
  · exact .error _

theorem statements_low (declared : List String) (tokens : List Token) :
    Gives (fun out => ∀ statement ∈ out, Low room statement) (statements (α := α) bounds room declared tokens) := by
  induction declared, tokens using statements.induct (α := α) with
  | case1 declared =>
    rw [statements]
    exact .ok fun _ mem => absurd mem List.not_mem_nil
  | case2 declared t rest skipped ih =>
    rw [statements, if_pos skipped]
    exact ih
  | case3 declared t rest kept ih =>
    rw [statements, if_neg kept]
    refine (clause_low bounds room declared (t :: rest)).bind fun out low => ?_
    rcases out with ⟨statement, _⟩
    refine (Gives.trivial _).bind fun after _ => ?_
    split
    · next shorter =>
      refine (ih statement after shorter).bind fun further others => .ok fun other mem => ?_
      rcases List.mem_cons.mp mem with rfl | mem
      · exact low
      · exact others other mem
    · refine .ok fun other mem => ?_
      rcases List.mem_singleton.mp mem with rfl
      exact low

end Statement

theorem parseTokens_low [Literal α] (depth : Int) (tokens : List Token) :
    Gives (fun statements => ∀ statement ∈ statements, Statement.Low depth.toNat statement)
      (parseTokens (α := α) (.whole depth) tokens) :=
  Statement.statements_low _ _ _ _

/-! ## Trees that are as high -/

namespace Expr

theorem height_map {β : Type} (f : α → β) (e : Expr α) : (e.map f).height = e.height := by
  induction e using Expr.induction with
  | number | text | boolean | name => rfl
  | call function arguments ih =>
    have same : ∀ rest : List (Expr α), (∀ e ∈ rest, (e.map f).height = e.height) →
        greatestHeight (mapAll f rest) = greatestHeight rest := by
      intro rest each
      induction rest with
      | nil => rfl
      | cons e rest ihRest =>
        rw [mapAll, greatestHeight, greatestHeight, each e List.mem_cons_self,
          ihRest fun e mem => each e (List.mem_cons_of_mem _ mem)]
    rw [map, height, height, same arguments ih]
  | binary left op right ihLeft ihRight => rw [map, height, height, ihLeft, ihRight]
  | index series position ih => rw [map, height, height, ih]

def operatorOf : Tier → Operator
  | .or => .test .or
  | .and => .test .and
  | .equality => .test .equal
  | .comparison => .test .less
  | .additive => .arithmetic .add
  | .multiplicative => .arithmetic .multiply

theorem tier?_operatorOf (tier : Tier) : (operatorOf tier).tier? = some tier := by
  cases tier <;> rfl

def chainOf (tier : Tier) (e : Expr α) : Nat → Expr α
  | 0 => e
  | count + 1 => .binary (chainOf tier e count) (operatorOf tier) (.name "x")

/-- Chains of `count` operators, of the tightest tier inside and the loosest outside. -/
def chainsOf (count : Nat) (e : Expr α) : Expr α :=
  [.multiplicative, .additive, .comparison, .equality, .and, .or].foldl (fun e tier => chainOf tier e count) e

def tall : Nat → Expr α
  | 0 => .name "x"
  | room + 1 => chainsOf (room + 1) (.call "f" [tall room])

theorem height_pos (e : Expr α) : 0 < e.height := by
  cases e <;> exact Nat.succ_pos _

theorem height_chainOf (tier : Tier) (e : Expr α) (count : Nat) : (chainOf tier e count).height = e.height + count := by
  induction count with
  | zero => rfl
  | succ count ih =>
    have positive := e.height_pos
    rw [chainOf, height, ih, height]
    omega

theorem height_tall (room : Nat) : (tall room : Expr α).height = tallest (room + 1) := by
  induction room with
  | zero => rfl
  | succ room ih =>
    simp only [tall, chainsOf, List.foldl_cons, List.foldl_nil, height_chainOf, height, greatestHeight, ih]
    show _ = tallest (room + 1) + 6 * (room + 1) + 1
    omega

section Printing

variable [Literal α] {rank room : Nat} {e : Expr (Numeral α)}

/-- Printed, the expression binds at least as tightly as the rank says, and nests at most so many levels. -/
structure Nests (rank room : Nat) (e : Expr (Numeral α)) : Prop where
  tight : e.looseness ≤ rank
  low : e.levels ≤ room
  printable : e.Printable

theorem isName_x : Token.IsName "x".toList := by decide

theorem Nests.chainOf (nests : e.Nests rank room) (tier : Tier) (looser : tier.rank = rank + 1) {count : Nat}
    (le : count ≤ room) :
    (e.chainOf tier count).Nests tier.rank room ∧ (e.chainOf tier count).spine tier = count := by
  have isTier := tier?_operatorOf tier
  induction count with
  | zero =>
    have tight := nests.tight
    exact ⟨⟨by rw [Expr.chainOf]; omega, nests.low, nests.printable⟩, spine_eq_zero (by rw [Expr.chainOf]; omega)⟩
  | succ count ih =>
    rcases ih (Nat.le_of_succ_le le) with ⟨⟨tight, low, printable⟩, spine⟩
    refine ⟨⟨?_, ?_, ?_⟩, ?_⟩
    · simp [Expr.chainOf, looseness, isTier]
    · have bare : (decide (tier.rank < (Expr.chainOf tier e count).looseness)).toNat = 0 := by
        rw [decide_eq_false (by omega)]
        rfl
      have name : (decide (tier.rank ≤ (Expr.name "x" : Expr (Numeral α)).looseness)).toNat = 0 := by
        have positive := tier.rank_pos
        rw [decide_eq_false (by simp only [looseness]; omega)]
        rfl
      rw [Expr.chainOf, levels_of_tier isTier, bare, name, spine]
      simp only [levels]
      omega
    · refine ⟨?_, printable, isName_x⟩
      cases tier <;> exact True.intro
    · rw [Expr.chainOf, Expr.spine, if_pos isTier, spine]

theorem tall_nests (room : Nat) : (tall room : Expr (Numeral α)).Nests 6 room := by
  induction room with
  | zero => exact ⟨Nat.zero_le _, Nat.le_refl _, isName_x⟩
  | succ room ih =>
    have call : (Expr.call "f" [tall room] : Expr (Numeral α)).Nests 0 (room + 1) := by
      refine ⟨Nat.le_refl _, ?_, by decide, ih.printable, trivial⟩
      have low := ih.low
      simp only [levels, argumentLevels]
      omega
    have le := Nat.le_refl (room + 1)
    have products := (call.chainOf .multiplicative rfl le).1
    have sums := (products.chainOf .additive rfl le).1
    have comparisons := (sums.chainOf .comparison rfl le).1
    have equalities := (comparisons.chainOf .equality rfl le).1
    have conjunctions := (equalities.chainOf .and rfl le).1
    exact (conjunctions.chainOf .or rfl le).1

end Printing

end Expr

/-! ## The limit and the height -/

section Limits

variable (α) [Literal α]

theorem parseTokens_tall (room : Nat) :
    ∃ tokens, parseTokens (.whole (room + 1)) tokens =
      .ok [.plot ((Expr.tall room : Expr (Numeral α)).map Numeral.value)] := by
  have nests := Expr.tall_nests (α := α) room
  have isScript : Statement.IsScript [] [.plot (Expr.tall room : Expr (Numeral α))] :=
    ⟨nests.printable, trivial, trivial⟩
  rcases tokenize_printed isScript with ⟨tokens, last, -, printed, inside⟩
  refine ⟨tokens ++ [⟨.endOfScript, "", last⟩],
    parseTokens_printed isScript (fun statement mem e isOf => ?_) printed inside⟩
  rcases List.mem_singleton.mp mem with rfl
  rcases List.mem_singleton.mp isOf with rfl
  have low := nests.low
  simp only [Limit.allows, decide_eq_true_eq]
  omega

theorem tallest_toNat {depth : Int} (positive : 0 < depth) :
    (Expr.tallest depth.toNat : Int) = depth * (3 * depth - 2) := by
  obtain ⟨room, rfl⟩ : ∃ room : Nat, depth = room + 1 := ⟨(depth - 1).toNat, by omega⟩
  rw [show ((room : Int) + 1).toNat = room + 1 by omega, Expr.tallest_eq]
  have factor : (3 * ((room : Int) + 1) - 2) = 3 * room + 1 := by omega
  rw [factor]
  simp

/-- Under a limit of `depth` levels, no tree that is read is higher than the bound. -/
def HeightsWithin (depth bound : Int) : Prop :=
  ∀ tokens (statements : List (Statement α)), parseTokens (.whole depth) tokens = .ok statements →
    ∀ statement ∈ statements, ∀ e ∈ statement.expressions, (e.height : Int) ≤ bound

theorem heightsWithin_iff (depth bound : Int) :
    HeightsWithin α depth bound ↔ depth ≤ 0 ∨ depth * (3 * depth - 2) ≤ bound := by
  constructor
  · intro within
    by_cases positive : 0 < depth
    · right
      rw [← tallest_toNat positive]
      obtain ⟨room, rfl⟩ : ∃ room : Nat, depth = room + 1 := ⟨(depth - 1).toNat, by omega⟩
      rcases parseTokens_tall α room with ⟨tokens, accepted⟩
      have low := within tokens _ accepted _ List.mem_cons_self _ List.mem_cons_self
      rw [Expr.height_map, Expr.height_tall] at low
      rwa [show ((room : Int) + 1).toNat = room + 1 by omega]
    · exact .inl (Int.not_lt.mp positive)
  · intro bounded tokens statements accepted statement mem e isOf
    have low := parseTokens_low depth tokens statements accepted statement mem e isOf
    have positive := e.height_pos
    rcases bounded with negative | bounded
    · rw [Int.toNat_of_nonpos negative] at low
      exact absurd low (Nat.not_le_of_gt positive)
    · by_cases negative : depth ≤ 0
      · rw [Int.toNat_of_nonpos negative] at low
        exact absurd low (Nat.not_le_of_gt positive)
      · rw [← tallest_toNat (Int.not_le.mp negative)] at bounded
        omega

/-- A limit of `depth` levels lets trees be `depth * (3 * depth - 2)` high and no higher, so it bounds the heights
themselves only where it allows at most one level. -/
theorem height_le_limit_iff (depth : Int) :
    (∀ bound, HeightsWithin α depth bound ↔ depth ≤ 0 ∨ depth * (3 * depth - 2) ≤ bound) ∧
      (HeightsWithin α depth depth ↔ depth ≤ 1) := by
  refine ⟨heightsWithin_iff α depth, (heightsWithin_iff α depth depth).trans ?_⟩
  constructor
  · intro bounded
    rcases bounded with negative | bounded
    · omega
    · refine Int.not_lt.mp fun deep => ?_
      have factor : 1 < 3 * depth - 2 := by omega
      have := Int.mul_lt_mul_of_pos_left factor (show 0 < depth by omega)
      omega
  · intro shallow
    by_cases negative : depth ≤ 0
    · exact .inl negative
    · obtain rfl : depth = 1 := by omega
      exact .inr (by decide)

end Limits

/-- The product has given its level back when the sum takes one. -/
theorem parse_product_plus :
    ∃ tokens statements, tokenize "x = a * b + c" = .ok tokens ∧
      parseTokens (α := Float) (.whole 2) tokens = .ok statements ∧
      ∃ statement ∈ statements, ∃ e ∈ statement.expressions, (2 : Int) < e.height := by
  refine ⟨_, _, by cbv, by cbv, _, List.mem_cons_self, _, List.mem_cons_self, by decide⟩

end IndicatorScript
