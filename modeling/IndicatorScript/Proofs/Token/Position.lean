import IndicatorScript.Proofs.Gives
import IndicatorScript.Token.Cursor

/-!
# Reading by position

Another way to read tokens: a cursor moves along the whole list, and a counter goes up and down with the levels of the
expressions. Nothing but the tokens themselves bounds such a reader, so it takes fuel, and ends if any fuel is enough. A
walk that `Mirrors` a parser ends wherever it begins, with what the parser gives, and leaves the counter as it was.
-/

namespace IndicatorScript

/-- Where a walk stands, how many levels it is in, and the levels at which it has read operands, the last one first. -/
structure Cursor where
  position : Nat := 0
  depth : Nat := 0
  operands : List Nat := []

/-- A reader that moves a cursor. It gives something or fails, or else it does not end with the fuel that it has. -/
abbrev Walk (β : Type) := ExceptT SyntaxError (StateT Cursor Option) β

namespace Walk

variable {β γ : Type}

def outcome (walk : Walk β) (cursor : Cursor) : Option (Except SyntaxError β × Cursor) := walk.run.run cursor

section Steps

variable (limit : Limit) (tokens : List Token)

def spent : Walk β := fun _ => none

def peek : Walk Token := fun cursor =>
  (tokens[cursor.position]?).map fun t => (.ok t, cursor)

def peekNext : Walk Token := fun cursor =>
  (tokens[min (cursor.position + 1) (tokens.length - 1)]?).map fun t => (.ok t, cursor)

/-- The token before the cursor. Before the first token stands the last one. -/
def previous : Walk Token := fun cursor =>
  (if cursor.position = 0 then tokens.getLast? else tokens[cursor.position - 1]?).map fun t => (.ok t, cursor)

/-- Moves on, unless the script ends here. -/
def advance : Walk Token := do
  let t ← peek tokens
  if t.kind ≠ .endOfScript then modify fun cursor => { cursor with position := cursor.position + 1 }
  previous tokens

/-- Moves on if the token here is one of those wanted. -/
def accept? {β : Type} (wanted : Token → Option β) : Walk (Option β) := do
  let t ← peek tokens
  match wanted t with
  | some _ => do
      let accepted ← advance tokens
      return wanted accepted
  | none => return none

def expect (kind : Token.Kind) (what : Expectation) : Walk Token := do
  let t ← peek tokens
  if t.kind = kind then advance tokens else throw ⟨.expected what t, t.line⟩

def enter : Walk Unit := do
  modify fun cursor => { cursor with depth := cursor.depth + 1 }
  let cursor ← get
  if !limit.allows cursor.depth then
    let t ← peek tokens
    throw ⟨.tooDeep limit, t.line⟩

/-- Gives levels back. A walk that fails ends the whole reading, so it may keep its levels. -/
def leave (levels : Nat) : Walk Unit :=
  modify fun cursor => { cursor with depth := cursor.depth - levels }

def noteOperand : Walk Unit :=
  modify fun cursor => { cursor with operands := cursor.depth :: cursor.operands }

end Steps

/-! ## Outcomes -/

section Outcomes

variable {walk : Walk β} {next : β → Walk γ} {cursor after : Cursor}

theorem outcome_bind_of_ok {x : β} (ran : walk.outcome cursor = some (.ok x, after)) :
    (walk >>= next).outcome cursor = (next x).outcome after := by
  change ((walk cursor).bind fun p => _) = _
  rw [show walk cursor = _ from ran]
  rfl

theorem outcome_bind_of_error {e : SyntaxError} (ran : walk.outcome cursor = some (.error e, after)) :
    (walk >>= next).outcome cursor = some (.error e, after) := by
  change ((walk cursor).bind fun p => _) = _
  rw [show walk cursor = _ from ran]
  rfl

theorem outcome_modify_bind {f : Cursor → Cursor} {next : PUnit → Walk γ} :
    ((modify f : Walk PUnit) >>= next).outcome cursor = (next ⟨⟩).outcome (f cursor) :=
  outcome_bind_of_ok rfl

/-- With enough fuel, the walk ends like this, and more fuel makes no difference. -/
def Ends (walk : Nat → Walk β) (cursor : Cursor) (ending : Except SyntaxError β × Cursor) : Prop :=
  ∃ enough, ∀ fuel, enough ≤ fuel → (walk fuel).outcome cursor = some ending

namespace Ends

variable {walk : Nat → Walk β} {next : Nat → β → Walk γ} {ending : Except SyntaxError γ × Cursor}

theorem of_outcome {walk : Walk γ} (ran : walk.outcome cursor = some ending) : Ends (fun _ => walk) cursor ending :=
  ⟨0, fun _ _ => ran⟩

theorem bind {x : β} (first : Ends walk cursor (.ok x, after)) (second : Ends (fun fuel => next fuel x) after ending) :
    Ends (fun fuel => walk fuel >>= next fuel) cursor ending := by
  rcases first with ⟨enough, ran⟩
  rcases second with ⟨enough', ran'⟩
  refine ⟨max enough enough', fun fuel le => ?_⟩
  rw [outcome_bind_of_ok (ran fuel (Nat.le_trans (Nat.le_max_left ..) le))]
  exact ran' fuel (Nat.le_trans (Nat.le_max_right ..) le)

theorem bind_error {e : SyntaxError} (first : Ends walk cursor (.error e, after)) :
    Ends (fun fuel => walk fuel >>= next fuel) cursor (.error e, after) := by
  rcases first with ⟨enough, ran⟩
  exact ⟨enough, fun fuel le => outcome_bind_of_error (ran fuel le)⟩

theorem succ {walk : Nat → Walk γ} (ends : Ends (fun fuel => walk (fuel + 1)) cursor ending) :
    Ends walk cursor ending := by
  rcases ends with ⟨enough, ran⟩
  refine ⟨enough + 1, fun fuel le => ?_⟩
  cases fuel with
  | zero => exact absurd le (Nat.not_succ_le_zero enough)
  | succ fuel => exact ran fuel (Nat.le_of_succ_le_succ le)

end Ends

end Outcomes

end Walk

/-! ## Where a cursor stands -/

/-- These tokens stand ahead of the first one that ends the script. -/
structure Marked (tokens ahead : List Token) (last : Token) : Prop where
  splits : ∃ behind, tokens = ahead ++ last :: behind
  isEnd : last.kind = .endOfScript
  noEnd : ∀ t ∈ ahead, t.kind ≠ .endOfScript

theorem Marked.kind_headD {tokens ahead : List Token} {last : Token} (marked : Marked tokens ahead last) (limit : Limit)
    (rest : List Token) : (rest.headD last).kind = (Bounds.next ⟨limit, last.line⟩ rest).kind := by
  cases rest with
  | nil => exact marked.isEnd
  | cons t rest => rfl

/-- The cursor has these tokens before it, of all those ahead of the end. -/
structure Cursor.At (cursor : Cursor) (ahead rest : List Token) : Prop where
  within : cursor.position ≤ ahead.length
  rest : ahead.drop cursor.position = rest

def Cursor.moved (cursor : Cursor) : Cursor := { cursor with position := cursor.position + 1 }

def Cursor.deeper (cursor : Cursor) : Cursor := { cursor with depth := cursor.depth + 1 }

namespace Cursor

variable {cursor after : Cursor} {tokens ahead rest rest' : List Token} {t last : Token}

theorem At.length_add (at' : cursor.At ahead rest) : cursor.position + rest.length = ahead.length := by
  have := at'.within
  rw [← at'.rest, List.length_drop]
  omega

theorem At.length_le (at' : cursor.At ahead rest) (atAfter : after.At ahead rest')
    (le : cursor.position ≤ after.position) : rest'.length ≤ rest.length := by
  have := at'.length_add
  have := atAfter.length_add
  omega

theorem At.moved (at' : cursor.At ahead (t :: rest)) : cursor.moved.At ahead rest := by
  have length := at'.length_add
  rw [List.length_cons] at length
  refine ⟨show cursor.position + 1 ≤ _ by omega, ?_⟩
  change ahead.drop (cursor.position + 1) = rest
  rw [← List.drop_drop, at'.rest]
  rfl

theorem At.deeper (at' : cursor.At ahead rest) : cursor.deeper.At ahead rest := ⟨at'.within, at'.rest⟩

theorem At.getElem?_position (at' : cursor.At ahead (t :: rest)) : ahead[cursor.position]? = some t := by
  rw [← List.head?_drop, at'.rest, List.head?_cons]

theorem At.here (at' : cursor.At ahead rest) (marked : Marked tokens ahead last) :
    tokens[cursor.position]? = some (rest.headD last) := by
  rcases marked.splits with ⟨behind, rfl⟩
  cases rest with
  | nil =>
    have length : cursor.position = ahead.length := at'.length_add
    rw [length, List.getElem?_append_right (Nat.le_refl _), Nat.sub_self]
    rfl
  | cons t rest =>
    have here := at'.getElem?_position
    rw [List.getElem?_append_left (List.getElem?_eq_some_iff.mp here).1, here]
    rfl

theorem At.next (at' : cursor.At ahead (t :: rest)) (marked : Marked tokens ahead last) :
    tokens[min (cursor.position + 1) (tokens.length - 1)]? = some (rest.headD last) := by
  have here := at'.moved.here marked
  have bound : cursor.position + 1 < tokens.length := (List.getElem?_eq_some_iff.mp here).1
  rwa [Nat.min_eq_left (by omega)]

theorem At.mem (at' : cursor.At ahead (t :: rest)) : t ∈ ahead :=
  List.mem_of_getElem? at'.getElem?_position

end Cursor

namespace Walk

variable {β γ : Type} {limit : Limit} {tokens ahead rest : List Token} {t last : Token} {cursor after : Cursor}

/-! ## Steps from a place -/

section Places

theorem peek_outcome (marked : Marked tokens ahead last) (at' : cursor.At ahead rest) :
    (peek tokens).outcome cursor = some (.ok (rest.headD last), cursor) := by
  change (tokens[cursor.position]?).map _ = _
  rw [at'.here marked]
  rfl

theorem peekNext_outcome (marked : Marked tokens ahead last) (at' : cursor.At ahead (t :: rest)) :
    (peekNext tokens).outcome cursor = some (.ok (rest.headD last), cursor) := by
  change (tokens[min (cursor.position + 1) (tokens.length - 1)]?).map _ = _
  rw [at'.next marked]
  rfl

theorem advance_outcome (marked : Marked tokens ahead last) (at' : cursor.At ahead (t :: rest)) :
    (advance tokens).outcome cursor = some (.ok t, cursor.moved) := by
  rw [advance, outcome_bind_of_ok (peek_outcome marked at')]
  have goesOn : ((t :: rest).headD last).kind ≠ .endOfScript := marked.noEnd t at'.mem
  rw [if_pos goesOn, outcome_modify_bind]
  change (if cursor.position + 1 = 0 then _ else tokens[cursor.position + 1 - 1]?).map _ = _
  rw [if_neg (Nat.succ_ne_zero _), Nat.add_sub_cancel, at'.here marked]
  rfl

theorem accept?_of_some (marked : Marked tokens ahead last) (at' : cursor.At ahead (t :: rest))
    {wanted : Token → Option β} {x : β} (isWanted : wanted t = some x) :
    (accept? tokens wanted).outcome cursor = some (.ok (some x), cursor.moved) := by
  rw [accept?, outcome_bind_of_ok (peek_outcome marked at'), List.headD_cons, isWanted]
  refine (outcome_bind_of_ok (advance_outcome marked at')).trans ?_
  rw [isWanted]
  rfl

theorem accept?_of_none (marked : Marked tokens ahead last) (at' : cursor.At ahead rest) {wanted : Token → Option β}
    (unwanted : wanted (rest.headD last) = none) :
    (accept? tokens wanted).outcome cursor = some (.ok none, cursor) := by
  rw [accept?, outcome_bind_of_ok (peek_outcome marked at'), unwanted]
  rfl

theorem enter_of_allowed (allowed : limit.allows (cursor.depth + 1) = true) :
    (enter limit tokens).outcome cursor = some (.ok (), cursor.deeper) := by
  change (StateT.run (ExceptT.run (if !limit.allows (cursor.depth + 1) then _ else _)) _) = _
  rw [allowed]
  rfl

theorem enter_of_refused (marked : Marked tokens ahead last) (at' : cursor.At ahead rest)
    (refused : limit.allows (cursor.depth + 1) = false) :
    (enter limit tokens).outcome cursor = some (.error ⟨.tooDeep limit, (rest.headD last).line⟩, cursor.deeper) := by
  change (StateT.run (ExceptT.run (if !limit.allows (cursor.depth + 1) then _ else _)) _) = _
  rw [refused]
  exact outcome_bind_of_ok (peek_outcome marked at'.deeper)

end Places

end Walk

/-! ## Doing as a parser does -/

def SyntaxError.SameReport (e e' : SyntaxError) : Prop := e.cause.text = e'.cause.text ∧ e.line = e'.line

theorem SyntaxError.Cause.text_unexpectedToken (t t' : Token) (same : t.shown = t'.shown) :
    (unexpectedToken t).text = (unexpectedToken t').text :=
  congrArg (fun shown => "Unexpected token: " ++ shown) same

theorem SyntaxError.Cause.text_expected (what : Expectation) (t t' : Token) (same : t.shown = t'.shown) :
    (expected what t).text = (expected what t').text :=
  congrArg (fun shown => what.text ++ ", got " ++ shown) same

/-- The cursor has not gone back, and the operands it has read since then are at levels that are allowed, provided that
the walk begins as it should. -/
structure Cursor.Passes (limit : Limit) (given : Prop) (before after : Cursor) : Prop where
  forward : before.position ≤ after.position
  noted : ∃ noted, after.operands = noted ++ before.operands ∧ (given → ∀ n ∈ noted, limit.allows n = true)

namespace Cursor.Passes

variable {limit : Limit} {given given' : Prop} {first second third : Cursor}

theorem silent (forward : first.position ≤ second.position) (same : second.operands = first.operands) :
    first.Passes limit given second :=
  ⟨forward, [], same, fun _ _ mem => absurd mem List.not_mem_nil⟩

theorem refl : first.Passes limit given first := .silent (Nat.le_refl _) rfl

theorem moved : first.Passes limit given first.moved := .silent (Nat.le_succ _) rfl

theorem deeper : first.Passes limit given first.deeper := .silent (Nat.le_refl _) rfl

theorem trans (one : first.Passes limit given second) (other : second.Passes limit given third) :
    first.Passes limit given third := by
  rcases one.noted with ⟨noted, same, allowed⟩
  rcases other.noted with ⟨noted', same', allowed'⟩
  refine ⟨Nat.le_trans one.forward other.forward, noted' ++ noted, ?_, fun holds n mem => ?_⟩
  · rw [same', same, List.append_assoc]
  · exact (List.mem_append.mp mem).elim (allowed' holds n) (allowed holds n)

theorem mono (passes : first.Passes limit given second) (stronger : given' → given) :
    first.Passes limit given' second := by
  rcases passes with ⟨forward, noted, same, allowed⟩
  exact ⟨forward, noted, same, fun holds => allowed (stronger holds)⟩

theorem allowed (passes : first.Passes limit given second) (none : first.operands = []) (holds : given) :
    ∀ n ∈ second.operands, limit.allows n = true := by
  rcases passes.noted with ⟨noted, same, allowed⟩
  rw [same, none, List.append_nil]
  exact allowed holds

end Cursor.Passes

namespace Walk

variable {β γ : Type}

/-- From this cursor, the walk ends with this report, not beyond the end of the script. -/
def Fails (limit : Limit) (ahead : List Token) (given : Prop) (cursor : Cursor) (walk : Nat → Walk β)
    (e : SyntaxError) : Prop :=
  ∃ e' after, Ends walk cursor (.error e', after) ∧ e'.SameReport e ∧ after.position ≤ ahead.length ∧
    cursor.Passes limit given after

/-- From this cursor, the walk ends with what the parser gives, where the parser leaves off. -/
def Follows (limit : Limit) (ahead : List Token) (given : Prop) (cursor : Cursor) (walk : Nat → Walk β) :
    Except SyntaxError (β × List Token) → Prop
  | .ok (x, rest) => ∃ after, Ends walk cursor (.ok x, after) ∧ after.At ahead rest ∧ after.depth = cursor.depth ∧
      cursor.Passes limit given after
  | .error e => Fails limit ahead given cursor walk e

/-- The room is what the limit leaves from a depth on, for so many levels. -/
def Affords (limit : Limit) (depth room span : Nat) : Prop :=
  ∀ levels, 1 ≤ levels → levels ≤ span → (limit.allows (depth + levels) = true ↔ levels ≤ room)

/-- From every cursor before these tokens, with this room left, the walk does as the parser. -/
def Mirrors (limit : Limit) (ahead : List Token) (given : Nat → Prop) (slack room : Nat) (tokens : List Token)
    (walk : Nat → Walk β) (result : Except SyntaxError (β × List Token)) : Prop :=
  ∀ cursor : Cursor, cursor.At ahead tokens → Affords limit cursor.depth room (tokens.length + slack) →
    Follows limit ahead (given cursor.depth) cursor walk result

end Walk

namespace Walk

section Rules

variable {β γ δ : Type} {limit : Limit} {tokens ahead rest : List Token} {t last : Token} {given given' : Nat → Prop}
  {slack room : Nat} {walk : Nat → Walk β} {result : Except SyntaxError (β × List Token)}

theorem Affords.mono {depth span span' : Nat} (affords : Affords limit depth room span) (le : span' ≤ span) :
    Affords limit depth room span' :=
  fun levels pos within => affords levels pos (Nat.le_trans within le)

theorem Affords.deeper {depth span : Nat} (affords : Affords limit depth (room + 1) (span + 1)) :
    Affords limit (depth + 1) room span := by
  intro levels pos within
  rw [Nat.add_assoc, Nat.add_comm 1 levels, affords (levels + 1) (by omega) (by omega)]
  omega

theorem Affords.allows {depth span : Nat} (affords : Affords limit depth (room + 1) (span + 1)) :
    limit.allows (depth + 1) = true :=
  (affords 1 (Nat.le_refl 1) (by omega)).mpr (by omega)

theorem Affords.refuses {depth span : Nat} (affords : Affords limit depth 0 (span + 1)) :
    limit.allows (depth + 1) = false :=
  Bool.eq_false_iff.mpr fun allowed => absurd ((affords 1 (Nat.le_refl 1) (by omega)).mp allowed) (by omega)

theorem Fails.mono {holds holds' : Prop} {cursor : Cursor} {e : SyntaxError}
    (fails : Fails limit ahead holds cursor walk e) (stronger : holds' → holds) :
    Fails limit ahead holds' cursor walk e := by
  rcases fails with ⟨e', after, ends, same, within, passes⟩
  exact ⟨e', after, ends, same, within, passes.mono stronger⟩

section Steps

variable {next : Nat → β → Walk γ} {result' : Except SyntaxError (γ × List Token)} {holds : Prop}
  {cursor middle : Cursor} {e : SyntaxError} {x : β}

theorem Fails.bind (fails : Fails limit ahead holds cursor walk e) :
    Fails limit ahead holds cursor (fun fuel => walk fuel >>= next fuel) e := by
  rcases fails with ⟨e', after, ends, same, within, passes⟩
  exact ⟨e', after, ends.bind_error, same, within, passes⟩

theorem Fails.after_step (ends : Ends walk cursor (.ok x, middle)) (passes : cursor.Passes limit holds middle)
    (fails : Fails limit ahead holds middle (fun fuel => next fuel x) e) :
    Fails limit ahead holds cursor (fun fuel => walk fuel >>= next fuel) e := by
  rcases fails with ⟨e', after, ends', same, within, passes'⟩
  exact ⟨e', after, ends.bind ends', same, within, passes.trans passes'⟩

theorem Follows.of_ends {walk walk' : Nat → Walk γ}
    (same : ∀ {ending}, Ends walk' middle ending → Ends walk cursor ending) (depth : middle.depth = cursor.depth)
    (passes : cursor.Passes limit holds middle) (follows : Follows limit ahead holds middle walk' result') :
    Follows limit ahead holds cursor walk result' := by
  cases result' with
  | ok out =>
    rcases follows with ⟨after, ends, at', depth', passes'⟩
    exact ⟨after, same ends, at', depth'.trans depth, passes.trans passes'⟩
  | error e =>
    rcases follows with ⟨e', after, ends, report, within, passes'⟩
    exact ⟨e', after, same ends, report, within, passes.trans passes'⟩

theorem Follows.after_step (ends : Ends walk cursor (.ok x, middle)) (depth : middle.depth = cursor.depth)
    (passes : cursor.Passes limit holds middle)
    (follows : Follows limit ahead holds middle (fun fuel => next fuel x) result') :
    Follows limit ahead holds cursor (fun fuel => walk fuel >>= next fuel) result' :=
  .of_ends ends.bind depth passes follows

end Steps

namespace Mirrors

variable {next : Nat → β → Walk γ}

theorem ok (x : β) : Mirrors limit ahead given slack room rest (fun _ => pure x) (.ok (x, rest)) :=
  fun cursor at' _ => ⟨cursor, .of_outcome rfl, at', rfl, .refl⟩

theorem error {e e' : SyntaxError} (same : e.SameReport e') :
    Mirrors (β := β) limit ahead given slack room rest (fun _ => throw e) (.error e') :=
  fun cursor at' _ => ⟨e, cursor, .of_outcome rfl, same, at'.within, .refl⟩

theorem succ (mirrors : Mirrors limit ahead given slack room tokens (fun fuel => walk (fuel + 1)) result) :
    Mirrors limit ahead given slack room tokens walk result :=
  fun cursor at' affords => .of_ends Ends.succ rfl .refl (mirrors cursor at' affords)

theorem weaken {more : Nat} (mirrors : Mirrors limit ahead given slack room tokens walk result)
    (stronger : ∀ depth, given' depth → given depth) (le : slack ≤ more) :
    Mirrors limit ahead given' more room tokens walk result := by
  intro cursor at' affords
  have follows := mirrors cursor at' (affords.mono (by omega))
  cases result with
  | ok out =>
    rcases follows with ⟨after, ends, atAfter, depth, passes⟩
    exact ⟨after, ends, atAfter, depth, passes.mono (stronger _)⟩
  | error e => exact Fails.mono follows (stronger _)

theorem relaxed (mirrors : Mirrors limit ahead given slack room tokens walk result) :
    Mirrors limit ahead given (slack + 1) room tokens walk result :=
  mirrors.weaken (fun _ => id) (Nat.le_succ slack)

/-- What holds wherever a walk begins does not depend on how it should begin. -/
theorem anywhere (mirrors : Mirrors limit ahead (fun _ => True) slack room tokens walk result) :
    Mirrors limit ahead given slack room tokens walk result :=
  mirrors.weaken (fun _ _ => trivial) (Nat.le_refl slack)

theorem bindWhole {parse : β × List Token → Except SyntaxError (γ × List Token)}
    (first : Mirrors limit ahead given slack room tokens walk result)
    (second : ∀ x rest, result = .ok (x, rest) →
      Mirrors limit ahead given slack room rest (fun fuel => next fuel x) (parse (x, rest))) :
    Mirrors limit ahead given slack room tokens (fun fuel => walk fuel >>= next fuel) (result >>= parse) := by
  intro cursor at' affords
  have follows := first cursor at' affords
  cases result with
  | ok out =>
    rcases follows with ⟨middle, ends, atMiddle, depth, passes⟩
    refine .after_step ends depth passes ?_
    rw [← depth]
    have shorter := at'.length_le atMiddle passes.forward
    exact second out.1 out.2 rfl middle atMiddle (depth.symm ▸ affords.mono (by omega))
  | error e => exact Fails.bind follows

theorem bindMapped {parse : β × List Token → Except SyntaxError δ} {f : δ → γ × List Token}
    (first : Mirrors limit ahead given slack room tokens walk result)
    (second : ∀ x rest, result = .ok (x, rest) →
      Mirrors limit ahead given slack room rest (fun fuel => next fuel x) ((parse (x, rest)).map f)) :
    Mirrors limit ahead given slack room tokens (fun fuel => walk fuel >>= next fuel) ((result >>= parse).map f) := by
  rw [show (result >>= parse).map f = result >>= fun out => (parse out).map f by cases result <;> rfl]
  exact first.bindWhole second

theorem bind {parse : β × List Token → Except SyntaxError (γ × List Token)}
    (first : Mirrors limit ahead given slack room tokens walk result)
    (second : ∀ x rest, Mirrors limit ahead given slack room rest (fun fuel => next fuel x) (parse (x, rest))) :
    Mirrors limit ahead given slack room tokens (fun fuel => walk fuel >>= next fuel) (result >>= parse) :=
  first.bindWhole fun x rest _ => second x rest

theorem of_moved {walk : Walk γ} {x : γ} {next : Nat → γ → Walk β}
    (moves : ∀ cursor : Cursor, cursor.At ahead (t :: rest) → walk.outcome cursor = some (.ok x, cursor.moved))
    (further : Mirrors limit ahead given (slack + 1) room rest (fun fuel => next fuel x) result) :
    Mirrors limit ahead given slack room (t :: rest) (fun fuel => walk >>= next fuel) result := by
  intro cursor at' affords
  refine .after_step (.of_outcome (moves cursor at')) rfl .moved ?_
  refine further cursor.moved at'.moved (Affords.mono affords ?_)
  rw [List.length_cons]
  omega

theorem noteOperand {next : Nat → Unit → Walk β}
    (further : Mirrors limit ahead (limit.allows · = true) slack room rest (fun fuel => next fuel ()) result) :
    Mirrors limit ahead (limit.allows · = true) slack room rest (fun fuel => Walk.noteOperand >>= next fuel)
      result := by
  intro cursor at' affords
  let noting : Cursor := { cursor with operands := cursor.depth :: cursor.operands }
  have passes : cursor.Passes limit (limit.allows cursor.depth = true) noting :=
    ⟨Nat.le_refl _, [cursor.depth], rfl, fun allowed n mem => List.mem_singleton.mp mem ▸ allowed⟩
  have notes : Walk.noteOperand.outcome cursor = some (.ok (), noting) := rfl
  exact .after_step (.of_outcome notes) rfl passes (further noting ⟨at'.within, at'.rest⟩ affords)

theorem within {parse : β × List Token → Except SyntaxError (γ × List Token)}
    (inner : Mirrors limit ahead (limit.allows · = true) slack room rest walk result)
    (further : ∀ x rest, Mirrors limit ahead given (slack + 1) (room + 1) rest (fun fuel => next fuel x)
      (parse (x, rest))) :
    Mirrors limit ahead given (slack + 1) (room + 1) rest
      (fun fuel => enter limit tokens >>= fun _ => walk fuel >>= fun x => leave 1 >>= fun _ => next fuel x)
      (result >>= parse) := by
  intro cursor at' affords
  have allowed := Affords.allows affords
  have entered : cursor.Passes limit (given cursor.depth) cursor.deeper := .deeper
  have enters : Ends (fun _ => enter limit tokens) cursor (.ok (), cursor.deeper) :=
    .of_outcome (enter_of_allowed allowed)
  have follows := inner cursor.deeper at'.deeper (Affords.deeper affords)
  cases result with
  | ok out =>
    rcases follows with ⟨middle, ends, atMiddle, depth, passes⟩
    have passes := entered.trans (passes.mono fun _ => allowed)
    let back : Cursor := { middle with depth := middle.depth - 1 }
    have depth : back.depth = cursor.depth := by
      change middle.depth - 1 = cursor.depth
      rw [depth, Cursor.deeper, Nat.add_sub_cancel]
    have shorter := at'.length_le atMiddle passes.forward
    have leaves : (leave 1).outcome middle = some (.ok (), back) := rfl
    refine .of_ends (fun further => enters.bind (ends.bind (Ends.bind (.of_outcome leaves) further))) depth
      ⟨passes.forward, passes.noted⟩ ?_
    have affords : Affords limit back.depth (room + 1) (out.2.length + (slack + 1)) := by
      rw [depth]
      exact Affords.mono affords (by omega)
    have follows := further out.1 out.2 back ⟨atMiddle.within, atMiddle.rest⟩ affords
    rwa [depth] at follows
  | error e =>
    exact Fails.after_step enters entered (Fails.bind (Fails.mono follows fun _ => allowed))

section Marks

variable (marked : Marked tokens ahead last)
include marked

theorem ofHead (mirrors : t.kind ≠ .endOfScript → Mirrors limit ahead given slack room (t :: rest) walk result) :
    Mirrors limit ahead given slack room (t :: rest) walk result :=
  fun cursor at' => mirrors (marked.noEnd t at'.mem) cursor at'

theorem peek {next : Nat → Token → Walk β}
    (further : Mirrors limit ahead given slack room rest (fun fuel => next fuel (rest.headD last)) result) :
    Mirrors limit ahead given slack room rest (fun fuel => Walk.peek tokens >>= next fuel) result :=
  fun cursor at' affords =>
    .after_step (.of_outcome (peek_outcome marked at')) rfl .refl (further cursor at' affords)

theorem peekNext {next : Nat → Token → Walk β}
    (further : Mirrors limit ahead given slack room (t :: rest) (fun fuel => next fuel (rest.headD last)) result) :
    Mirrors limit ahead given slack room (t :: rest) (fun fuel => Walk.peekNext tokens >>= next fuel) result :=
  fun cursor at' affords =>
    .after_step (.of_outcome (peekNext_outcome marked at')) rfl .refl (further cursor at' affords)

theorem advance {next : Nat → Token → Walk β}
    (further : Mirrors limit ahead given (slack + 1) room rest (fun fuel => next fuel t) result) :
    Mirrors limit ahead given slack room (t :: rest) (fun fuel => Walk.advance tokens >>= next fuel) result :=
  of_moved (fun _ at' => advance_outcome marked at') further

theorem accept {wanted : Token → Option γ} {x : γ} {next : Nat → Option γ → Walk β} (isWanted : wanted t = some x)
    (further : Mirrors limit ahead given (slack + 1) room rest (fun fuel => next fuel (some x)) result) :
    Mirrors limit ahead given slack room (t :: rest) (fun fuel => accept? tokens wanted >>= next fuel) result :=
  of_moved (fun _ at' => accept?_of_some marked at' isWanted) further

theorem pass {wanted : Token → Option γ} {next : Nat → Option γ → Walk β} (unwanted : wanted (rest.headD last) = none)
    (further : Mirrors limit ahead given slack room rest (fun fuel => next fuel none) result) :
    Mirrors limit ahead given slack room rest (fun fuel => accept? tokens wanted >>= next fuel) result :=
  fun cursor at' affords =>
    .after_step (.of_outcome (accept?_of_none marked at' unwanted)) rfl .refl (further cursor at' affords)

theorem fail (rest : List Token) {cause : Token → SyntaxError.Cause} (shows : ∀ t t' : Token, t.shown = t'.shown →
    (cause t).text = (cause t').text) :
    Mirrors (β := β) limit ahead given slack room rest
      (fun _ => throw ⟨cause (rest.headD last), (rest.headD last).line⟩)
      (Bounds.fail ⟨limit, last.line⟩ (cause (Bounds.next ⟨limit, last.line⟩ rest)) rest) := by
  cases rest with
  | nil =>
    refine .error ⟨shows _ _ ?_, rfl⟩
    simp [Token.shown, Bounds.next, marked.isEnd]
  | cons t rest => exact .error ⟨rfl, rfl⟩

theorem expect {kind : Token.Kind} (goesOn : kind ≠ .endOfScript) (what : Expectation) :
    Mirrors limit ahead given slack room rest (fun _ => Walk.expect tokens kind what)
      (Bounds.expect ⟨limit, last.line⟩ kind what rest) := by
  unfold Walk.expect
  refine .peek marked ?_
  cases rest with
  | nil =>
    have isOther : ¬ (([] : List Token).headD last).kind = kind := fun same => goesOn (same.symm.trans marked.isEnd)
    simp only [if_neg isOther]
    rw [Bounds.expect, Bounds.unexpected]
    exact .fail marked [] (SyntaxError.Cause.text_expected what)
  | cons t rest =>
    rw [List.headD_cons, Bounds.expect]
    split
    · rw [← bind_pure (Walk.advance tokens)]
      exact .advance marked (.ok t)
    · rw [Bounds.unexpected]
      exact .fail marked (t :: rest) (SyntaxError.Cause.text_expected what)

theorem followedBy {kind : Token.Kind} (goesOn : kind ≠ .endOfScript) (what : Expectation) (x : β) :
    Mirrors limit ahead given slack room rest (fun _ => Walk.expect tokens kind what >>= fun _ => pure x)
      (Bounds.expect ⟨limit, last.line⟩ kind what rest >>= fun closing => .ok (x, closing.2)) :=
  (expect marked goesOn what).bind fun _ _ => .ok x

theorem tooDeep {next : Nat → Unit → Walk β} :
    Mirrors limit ahead given (slack + 1) 0 rest (fun fuel => enter limit tokens >>= next fuel)
      (Bounds.tooDeep ⟨limit, last.line⟩ rest) := by
  intro cursor at' affords
  have refused := Ends.of_outcome (enter_of_refused marked at' (Affords.refuses affords))
  refine ⟨_, _, refused.bind_error, ⟨rfl, ?_⟩, at'.within, .deeper⟩
  cases rest <;> rfl

end Marks

end Mirrors

end Rules

/-! ## Going on -/

/-- From wherever it begins before the end, the walk ends there, not beyond the end and not before where it began. If it
succeeds, it is at least so many tokens further on, at the depth where it began. The operands it has read are at levels
that are allowed, provided that it begins as it should. -/
def Progresses (limit : Limit) (endsAt : Nat) (given : Nat → Prop) (least : Nat) (walk : Nat → Walk β) : Prop :=
  ∀ cursor : Cursor, cursor.position ≤ endsAt → ∃ result after, Ends walk cursor (result, after) ∧
    after.position ≤ endsAt ∧ cursor.Passes limit (given cursor.depth) after ∧
    ∀ x, result = .ok x → cursor.position + least ≤ after.position ∧ after.depth = cursor.depth

section Progress

variable {limit : Limit} {tokens ahead : List Token} {last : Token} {given : Nat → Prop} {slack least endsAt : Nat}

theorem exists_affords (limit : Limit) (depth span : Nat) : ∃ room, room ≤ span ∧ Affords limit depth room span := by
  induction span with
  | zero => exact ⟨0, Nat.le_refl 0, fun levels pos within => by omega⟩
  | succ span ih =>
    rcases ih with ⟨room, le, affords⟩
    cases allowed : limit.allows (depth + (span + 1)) with
    | true =>
      refine ⟨span + 1, Nat.le_refl _, fun levels pos within => ⟨fun _ => within, fun _ => ?_⟩⟩
      exact Limit.allows_of_le allowed (Nat.add_le_add_left within depth)
    | false =>
      refine ⟨room, Nat.le_succ_of_le le, fun levels pos within => ?_⟩
      rcases Nat.le_or_eq_of_le_succ within with less | rfl
      · exact affords levels pos less
      · rw [Nat.succ_eq_add_one, allowed]
        exact iff_of_false nofun (by omega)

theorem Progresses.of_mirrors {walk : Nat → Walk β} {parse : Nat → Parser β}
    (mirrors : ∀ room rest, Mirrors limit ahead given slack room rest walk (parse room rest))
    (shorter : ∀ room rest, Gives (fun out => out.2.length + least ≤ rest.length) (parse room rest)) :
    Progresses limit ahead.length given least walk := by
  intro cursor within
  have at' : cursor.At ahead (ahead.drop cursor.position) := ⟨within, rfl⟩
  rcases exists_affords limit cursor.depth ((ahead.drop cursor.position).length + slack) with ⟨room, -, affords⟩
  have follows := mirrors room _ cursor at' affords
  cases read : parse room (ahead.drop cursor.position) with
  | error e =>
    rw [read] at follows
    rcases follows with ⟨e', after, ends, -, within', passes⟩
    exact ⟨.error e', after, ends, within', passes, nofun⟩
  | ok out =>
    rw [read] at follows
    rcases follows with ⟨after, ends, atAfter, depth, passes⟩
    refine ⟨.ok out.1, after, ends, atAfter.within, passes, fun _ _ => ⟨?_, depth⟩⟩
    have := at'.length_add
    have := atAfter.length_add
    have := shorter room _ out read
    omega

namespace Progresses

theorem pure (x : β) : Progresses limit endsAt given 0 (fun _ => Pure.pure x) :=
  fun cursor within => ⟨.ok x, cursor, .of_outcome rfl, within, .refl, fun _ _ => ⟨Nat.le_refl _, rfl⟩⟩

theorem throw (e : SyntaxError) : Progresses (β := β) limit endsAt given 0 (fun _ => MonadExcept.throw e) :=
  fun cursor within => ⟨.error e, cursor, .of_outcome rfl, within, .refl, nofun⟩

theorem bind {least' : Nat} {walk : Nat → Walk β} {next : Nat → β → Walk γ}
    (first : Progresses limit endsAt given least walk)
    (second : ∀ x, Progresses limit endsAt given least' fun fuel => next fuel x) :
    Progresses limit endsAt given (least + least') fun fuel => walk fuel >>= next fuel := by
  intro cursor within
  rcases first cursor within with ⟨result, middle, ends, within', passes, further⟩
  cases result with
  | error e => exact ⟨.error e, middle, ends.bind_error, within', passes, nofun⟩
  | ok x =>
    rcases further x rfl with ⟨least, depth⟩
    rcases second x middle within' with ⟨result, after, ends', within'', passes', further'⟩
    rw [depth] at passes' further'
    refine ⟨result, after, ends.bind ends', within'', passes.trans passes', fun y same => ?_⟩
    rcases further' y same with ⟨least', depth'⟩
    exact ⟨by omega, depth'⟩

theorem advance (marked : Marked tokens ahead last) :
    Progresses limit ahead.length given 0 fun _ => Walk.advance tokens := by
  intro cursor within
  have at' : cursor.At ahead (ahead.drop cursor.position) := ⟨within, rfl⟩
  cases left : ahead.drop cursor.position with
  | cons t rest =>
    rw [left] at at'
    exact ⟨.ok t, cursor.moved, .of_outcome (advance_outcome marked at'), at'.moved.within, .moved,
      fun _ _ => ⟨Nat.le_succ _, rfl⟩⟩
  | nil =>
    rw [left] at at'
    have here := at'.here marked
    have bound : cursor.position < tokens.length := (List.getElem?_eq_some_iff.mp here).1
    have before : ∃ t, (if cursor.position = 0 then tokens.getLast? else tokens[cursor.position - 1]?) = some t := by
      split
      · exact ⟨_, List.getLast?_eq_some_getLast (List.ne_nil_of_length_pos (by omega))⟩
      · exact ⟨_, List.getElem?_eq_getElem (by omega)⟩
    rcases before with ⟨t, before⟩
    have stands : (previous tokens).outcome cursor = some (.ok t, cursor) := by
      change (if cursor.position = 0 then tokens.getLast? else tokens[cursor.position - 1]?).map _ = _
      rw [before]
      rfl
    refine ⟨.ok t, cursor, .of_outcome ?_, within, .refl, fun _ _ => ⟨Nat.le_refl _, rfl⟩⟩
    rw [Walk.advance, outcome_bind_of_ok (peek_outcome marked at'), List.headD_nil, if_neg (not_not_intro marked.isEnd)]
    exact stands

end Progresses

end Progress

end Walk

end IndicatorScript
