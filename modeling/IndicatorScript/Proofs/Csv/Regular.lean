import IndicatorScript.Csv.Table
import IndicatorScript.Proofs.Frame.Regular

/-!
# Tables are regular

However the words of a column are read, each of them becomes one cell. So all columns of a table that was read have a
cell for each row, and so have its labels (`table_isRegular`).
-/

namespace IndicatorScript

/-! ## Traversals -/

section Traversals

variable {β γ ε : Type} {f : β → Except ε γ} {xs : List β}

theorem exists_mem_of_mapM {ys : List γ} (given : xs.mapM f = .ok ys) {x : β} (mem : x ∈ xs) :
    ∃ y ∈ ys, f x = .ok y := by
  induction xs generalizing ys with
  | nil => cases mem
  | cons first rest ih =>
    rw [List.mapM_cons] at given
    rcases exists_of_bind_eq_ok given with ⟨y, read, given⟩
    rcases exists_of_bind_eq_ok given with ⟨further, reads, same⟩
    cases same
    rcases List.mem_cons.mp mem with rfl | mem
    · exact ⟨y, List.mem_cons_self, read⟩
    · rcases ih reads mem with ⟨z, isIn, read⟩
      exact ⟨z, List.mem_cons_of_mem y isIn, read⟩

theorem exists_of_mapM_eq_error {e : ε} (failed : xs.mapM f = .error e) : ∃ x ∈ xs, f x = .error e := by
  have each (x : β) (mem : x ∈ xs) : Yields (fun _ => True) (fun e => ∃ x ∈ xs, f x = .error e) (f x) := by
    cases read : f x with
    | ok => trivial
    | error e => exact ⟨x, mem, read⟩
  exact (Yields.mapM each).fails failed

end Traversals

namespace Csv

/-! ## Whole numbers without a sign -/

theorem digits_eq_ok {largest n : Nat} {cs : List Char} (read : digits largest cs = .ok n) :
    n = Decimal.digitsValue (cs.takeWhile Char.isDigit) := by
  unfold digits at read
  dsimp only at read
  split at read
  · cases read
  split at read
  · cases read
  split at read
  · cases read
    rfl
  · cases read

theorem digits_eq_tooLarge {largest : Nat} {cs : List Char} (beyond : digits largest cs = .error .tooLarge) :
    largest < Decimal.digitsValue (cs.takeWhile Char.isDigit) := by
  unfold digits at beyond
  dsimp only at beyond
  split at beyond
  · cases beyond
  split at beyond
  · next large => exact large
  · split at beyond <;> cases beyond

theorem signed_of_signless {word : String} {rest : List Char}
    (start : Decimal.takeSign (word.toList.dropWhile isSpace) = (false, rest)) :
    signed word = (digits greatestSigned rest).map Int.ofNat := by
  rw [signed, start]
  dsimp only
  rw [if_neg Bool.false_ne_true]
  cases digits greatestSigned rest <;> rfl

/-- A word that is too large for a number with a sign has a minus, or is as large without a sign. -/
theorem none_or_large {word : String} {value : Option Nat} (beyond : signed word = .error .tooLarge)
    (read : unsigned word = .ok value) : value = none ∨ ∃ n, value = some n ∧ greatestSigned < n := by
  have large {rest : List Char} (start : Decimal.takeSign (word.toList.dropWhile isSpace) = (false, rest))
      (read : (digits greatestUnsigned rest).map some = .ok value) : ∃ n, value = some n ∧ greatestSigned < n := by
    rcases exists_of_map_eq_ok read with ⟨n, isNumber, rfl⟩
    rw [signed_of_signless start] at beyond
    rw [digits_eq_ok isNumber]
    exact ⟨_, rfl, digits_eq_tooLarge (eq_error_of_map_eq_error beyond)⟩
  unfold unsigned at read
  split at read
  · exact .inl (Except.ok.inj read).symm
  · next rest start => exact .inr (large (by rw [start, Decimal.takeSign]) read)
  · next noMinus noPlus =>
    refine .inr (large ?_ read)
    unfold Decimal.takeSign
    split
    · next rest start => exact (noMinus rest start).elim
    · next rest start => exact (noPlus rest start).elim
    · rfl

/-! ## Columns -/

theorem length_cellsWith (absent : Cell Float) (read : String → Cell Float) (words : List String) :
    (cellsWith absent read words).length = words.length :=
  List.length_map _

theorem length_ordinaryCells (words : List String) : (ordinaryCells words).length = words.length := by
  unfold ordinaryCells
  split
  · exact length_cellsWith _ _ words
  split
  · exact length_cellsWith _ _ words
  · exact length_cellsWith _ _ words

/-- Missing words are left out of the numbers only where there is none. -/
theorem length_unsignedCells {words : List String} (beyond : (present words).mapM signed = .error .tooLarge) :
    (unsignedCells words).length = words.length := by
  unfold unsignedCells
  split
  · exact length_ordinaryCells words
  · exact length_cellsWith _ _ words
  · next values read =>
    dsimp only
    split
    · exact List.length_map _
    next notBoth =>
    split
    · exact length_cellsWith _ _ words
    next noSign =>
    rcases exists_of_mapM_eq_error beyond with ⟨word, mem, beyond⟩
    rcases exists_mem_of_mapM read mem with ⟨value, isIn, isRead⟩
    rcases none_or_large beyond isRead with rfl | ⟨n, rfl, large⟩
    · exact absurd (List.contains_iff_mem.mpr isIn) noSign
    · have hasLarge : (values.any fun value => value.any (greatestSigned < ·)) = true :=
        List.any_eq_true.mpr ⟨some n, isIn, by simpa using large⟩
      have nothingMissing : ¬ words.any isMissing = true := by
        rw [hasLarge, Bool.true_and, Bool.or_eq_true, not_or] at notBoth
        exact notBoth.2
      have all : present words = words := List.filter_eq_self.mpr (by simpa using nothingMissing)
      rw [List.length_map, Gives.length_mapM _ _ _ read, all]

theorem length_cells (words : List String) : (cells words).length = words.length := by
  unfold cells
  split
  · exact length_ordinaryCells words
  · next beyond => exact length_unsignedCells beyond
  · dsimp only
    split
    · exact length_cellsWith _ _ words
    · exact List.length_map _

/-! ## Tables -/

theorem length_labels (rows : List Record) (parts : Nat) : (labels rows parts).length = rows.length := by
  unfold labels
  split
  · rw [List.length_map, List.length_range]
  · rw [length_cells, column, List.length_map]
  · rw [joinedParts, List.length_map, List.length_range]

theorem table_isRegular (text : String) : Gives (fun table => table.frame.IsRegular) (table text) := by
  unfold table
  split
  · exact .error _
  · exact .error _
  · next header rows unfinished =>
    dsimp only
    split
    · exact .error _
    · exact .error _
    · refine .ok fun column mem => ?_
      rcases List.mem_map.mp mem with ⟨⟨name, position⟩, -, rfl⟩
      dsimp only
      rw [length_cells, length_labels, Csv.column, List.length_map]

theorem labels_of_plain {text : String} {table : Table} (read : Csv.table text = .ok table)
    (plain : table.labelParts = 0) :
    table.frame.labels = (List.range table.frame.labels.length).map fun (i : Nat) => .integer i := by
  unfold Csv.table at read
  split at read
  · cases read
  · cases read
  · next header rows unfinished =>
    dsimp only at read
    split at read
    · cases read
    · cases read
    · cases read
      dsimp only at plain ⊢
      rw [length_labels, plain, labels]

end Csv

end IndicatorScript
