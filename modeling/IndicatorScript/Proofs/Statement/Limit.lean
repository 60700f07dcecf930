import IndicatorScript.Proofs.Statement.Joining

/-!
# Parsing under a higher limit

A limit on nesting only ever takes a result away. Under a lower limit the parser does what it does under a higher one, or
finds an expression nested too deeply (`parseTokens_raised`). What it accepts it accepts under every higher limit, as the
same statements.
-/

namespace IndicatorScript

/-- The limits from the lower to the higher: each count that the one allows, the other allows as well. -/
instance : LE Limit where
  le limit raised := ∀ count, limit.allows count = true → raised.allows count = true

namespace Limit

theorem whole_le_whole {depth raised : Int} (le : depth ≤ raised) : whole depth ≤ whole raised := by
  intro count allowed
  simp only [allows, decide_eq_true_eq] at allowed ⊢
  omega

theorem room_eq_zero_or_allows (limit : Limit) (most : Nat) :
    limit.room most = 0 ∨ limit.allows (limit.room most) = true := by
  cases limit with
  | whole bound =>
    have within : bound.toNat = 0 ∨ (bound.toNat : Int) ≤ bound := by omega
    exact within.imp_right decide_eq_true
  | flag bound => exact .inr (decide_eq_true (Nat.le_refl _))
  | incomparable typeName => exact .inl rfl
  | fraction bound =>
    let allowed := (List.range (most + 1)).takeWhile (fraction bound).allows
    have isRoom : (fraction bound).room most = allowed.length - 1 := rfl
    rcases Nat.eq_zero_or_pos allowed.length with none | some
    · exact .inl (by omega)
    · right
      have last : allowed.length - 1 < allowed.length := by omega
      have kept := List.all_eq_true.mp List.all_takeWhile _ (List.getElem_mem last)
      rwa [(List.takeWhile_prefix _).getElem last, List.getElem_range, ← isRoom] at kept

theorem room_of_le {limit raised : Limit} (le : limit ≤ raised) (most : Nat) :
    most ≤ limit.room most ∧ most ≤ raised.room most ∨ limit.room most ≤ raised.room most := by
  rcases limit.room_eq_zero_or_allows most with none | allowed
  · right
    omega
  have allowed' := le _ allowed
  rcases Nat.le_total most (limit.room most) with enough | less
  · exact .inl ⟨enough, le_room_of_allows (allows_of_le allowed' enough) (Nat.le_refl most)⟩
  · exact .inr (le_room_of_allows allowed' less)

end Limit

@[simp] theorem SyntaxError.moved_zero (e : SyntaxError) : e.moved 0 = e := by
  rcases e with ⟨cause, line⟩
  cases cause <;> simp [SyntaxError.moved, SyntaxError.Cause.moved]

section Parsing

variable {α : Type} [Literal α] {limit raised : Limit}

/-- The same tokens in the same place, under another limit. -/
def Placement.raising (limit raised : Limit) (last : Int) : Placement where
  bounds := ⟨limit, last⟩
  elsewhere := ⟨raised, last⟩
  lines := 0
  behind := []
  ends := nofun

@[simp] theorem Placement.tokens_raising (limit raised : Limit) (last : Int) (tokens : List Token) :
    (raising limit raised last).tokens tokens = tokens := by
  rw [tokens_of_unmoved _ rfl]
  exact List.append_nil tokens

theorem Placement.SameFault.eq_of_raising {last : Int} {e e' : SyntaxError}
    (same : (raising limit raised last).SameFault e e') : e' = e := by
  have placed := same.whole (Token.moved_zero _).symm
  rwa [show (raising limit raised last).lines = 0 from rfl, SyntaxError.moved_zero] at placed

theorem Statement.statements_raised {last : Int} {room room' : Nat} {declared : List String} {tokens : List Token}
    (fits : (Placement.raising limit raised last).Fits tokens.length room room') :
    statements (α := α) ⟨limit, last⟩ room declared tokens = statements ⟨raised, last⟩ room' declared tokens ∨
      ∃ line, statements (α := α) ⟨limit, last⟩ room declared tokens = .error ⟨.tooDeep limit, line⟩ := by
  cases parsed : statements (α := α) ⟨limit, last⟩ room declared tokens with
  | ok script =>
    have continued := statements_continued fits parsed
    rw [Placement.tokens_raising] at continued
    change statements ⟨raised, last⟩ room' declared tokens =
      (statements ⟨raised, last⟩ room' (declaredAfterAll declared script) []).map (script ++ ·) at continued
    left
    rw [continued, statements]
    exact congrArg Except.ok (List.append_nil script).symm
  | error e =>
    have failed := statements_failed fits parsed
    rw [Placement.tokens_raising] at failed
    rcases failed with ⟨e', failed, same⟩ | ⟨-, line, rfl⟩
    · obtain rfl : e' = e := same.eq_of_raising
      exact .inl failed.symm
    · exact .inr ⟨line, rfl⟩

theorem parseTokens_of_le (le : limit ≤ raised) (tokens : List Token) :
    parseTokens (α := α) limit tokens = parseTokens raised tokens ∨
      ∃ line, parseTokens (α := α) limit tokens = .error ⟨.tooDeep limit, line⟩ := by
  let ahead := tokens.takeWhile (·.kind ≠ .endOfScript)
  refine Statement.statements_raised ?_
  refine (limit.room_of_le le (ahead.length + 1)).imp (fun enough => ⟨?_, ?_⟩) fun more => ⟨more, fun same => ?_⟩
  · exact Nat.le_of_succ_le enough.1
  · exact Nat.le_of_succ_le enough.2
  · rw [show limit = raised from same]

/-- Under the lower limit the outcome is the same, or the error that tells the limit. -/
theorem parseTokens_raised (le : limit ≤ raised) (tokens : List Token) :
    (parseTokens (α := α) limit tokens = parseTokens raised tokens ∨
      ∃ e, parseTokens (α := α) limit tokens = .error e ∧ e.cause = .tooDeep limit ∧
        e.cause.text = "Expression nested deeper than " ++ limit.shown ++ " levels") ∧
    (∀ script, parseTokens (α := α) limit tokens = .ok script → parseTokens raised tokens = .ok script) ∧
    ∀ (limits : Limits) (source : String) (script : Script α),
      compile { limits with nesting := limit } source = .ok script →
        compile { limits with nesting := raised } source = .ok script := by
  have kept (tokens : List Token) (script : List (Statement α)) (accepted : parseTokens limit tokens = .ok script) :
      parseTokens raised tokens = .ok script := by
    rcases parseTokens_of_le (α := α) le tokens with same | ⟨line, deep⟩
    · rw [← same, accepted]
    · rw [deep] at accepted
      cases accepted
  refine ⟨?_, kept tokens, fun limits source script compiled => ?_⟩
  · rcases parseTokens_of_le (α := α) le tokens with same | ⟨line, deep⟩
    · exact .inl same
    · exact .inr ⟨_, deep, rfl, rfl⟩
  · rcases exists_of_map_eq_ok compiled with ⟨statements, parsed, rfl⟩
    rcases exists_of_bind_eq_ok parsed with ⟨tokens, read, parsed⟩
    simp only [compile, parse, read, bind, Except.bind, kept tokens statements parsed]
    rfl

end Parsing

namespace Sample

def nested : List Token :=
  [⟨.identifier, "x", 1⟩, ⟨.equal, "=", 1⟩, ⟨.leftParen, "(", 1⟩, ⟨.leftParen, "(", 1⟩, ⟨.identifier, "a", 1⟩,
    ⟨.rightParen, ")", 1⟩, ⟨.rightParen, ")", 1⟩, ⟨.endOfScript, "", 1⟩]

end Sample

theorem parseTokens_raised_sample :
    Limit.whole 2 ≤ Limit.whole 3 ∧
      parseTokens (α := Float) (.whole 3) Sample.nested = .ok [.scalar "x" (.name "a")] ∧
      ∃ e, parseTokens (α := Float) (.whole 2) Sample.nested = .error e ∧
        e.cause.text = "Expression nested deeper than 2 levels" := by
  have le : Limit.whole 2 ≤ Limit.whole 3 := Limit.whole_le_whole (by decide)
  have accepted : parseTokens (α := Float) (.whole 3) Sample.nested = .ok [.scalar "x" (.name "a")] := by cbv
  have refused : (parseTokens (α := Float) (.whole 2) Sample.nested).isOk = false := by cbv
  refine ⟨le, accepted, ?_⟩
  rcases (parseTokens_raised (α := Float) le Sample.nested).1 with same | ⟨e, failed, -, text⟩
  · rw [same, accepted] at refused
    cases refused
  · exact ⟨e, failed, text⟩

end IndicatorScript
