import ScriptCheck.Proofs.Part.Tokens
import ScriptCheck.Proofs.Run.Nearest

/-! # A step inside a longer script

At a position of a part of a script a check does what it does for the part alone, `n` positions later
(`Script.step_within`). Each rule is compared with itself: it starts from states that agree on the variables
and on what has been noted from position `n` on, and leaves states that agree in the same way.
-/

namespace ScriptCheck

@[simp] theorem Site.shift_token (n : Nat) (site : Site) : (site.shift n).token = site.token := rfl

/-- The states agree on the variables and on what has been noted from position `n` on. Nothing is said
about the chain, which remembers only what the search for the nearest variable would find. -/
structure State.Shifted (n : Nat) (later first : State) : Prop where
  table : later.table = first.table
  refused : ∀ k, n + k ∈ later.refused ↔ k ∈ first.refused
  evaluated : ∀ k, n + k ∈ later.evaluated ↔ k ∈ first.evaluated
  resume : later.resume - n = first.resume

/-- The same has happened, `n` positions later. -/
structure Progress.Shifted (n : Nat) (later first : Progress) : Prop where
  state : State.Shifted n later.state first.state
  events : later.events = first.events.map (Event.shift n)

structure Ruling.Shifted (n : Nat) (later first : Ruling) : Prop where
  progress : Progress.Shifted n later.progress first.progress
  continues : later.continues = first.continues

theorem Progress.Shifted.after {n : Nat} {later first : Progress} (shifted : Shifted n later first)
    (events : List Event) :
    Shifted n (later.after (events.map (Event.shift n))) (first.after events) := by
  refine ⟨shifted.state, ?_⟩
  rw [Progress.after_events, Progress.after_events, List.map_append, shifted.events]

private theorem mem_append_map_add (n k : Nat) {later first : List Nat} (same : n + k ∈ later ↔ k ∈ first)
    (ps : List Nat) : n + k ∈ later ++ ps.map (n + ·) ↔ k ∈ first ++ ps := by
  simp [same]

/-! ### Rules that look at the variables only -/

namespace State.Shifted

variable {n : Nat} {later first : State} (shifted : Shifted n later first) (site : Site)
include shifted

/-- The chain plays no part. -/
theorem chain (second third : Option Chain) :
    Shifted n { later with chain := second } { first with chain := third } :=
  ⟨shifted.table, shifted.refused, shifted.evaluated, shifted.resume⟩

private theorem setTable (table : Table) : Shifted n { later with table } { first with table } :=
  ⟨rfl, shifted.refused, shifted.evaluated, shifted.resume⟩

theorem idle : Progress.Shifted n later.idle first.idle := ⟨shifted, rfl⟩

theorem report (problem : Problem) :
    Progress.Shifted n (later.report (site.shift n) problem) (first.report site problem) :=
  ⟨shifted, rfl⟩

private theorem noting {call other : CallResult} (same : CallResult.Shifted n call other) :
    Shifted n (later.noting call) (first.noting other) := by
  refine ⟨shifted.table, shifted.refused, ?_, ?_⟩
  · intro k
    change n + k ∈ later.evaluated ++ call.callees ↔ k ∈ first.evaluated ++ other.callees
    rw [same.callees]
    exact mem_append_map_add n k (shifted.evaluated k) _
  · change max later.resume call.resume - n = max first.resume other.resume
    rw [← shifted.resume, ← same.resume]
    omega

private theorem declare (type : ValueType) :
    Progress.Shifted n (later.declare (site.shift n) type) (first.declare site type) := by
  unfold State.declare
  simp only [Site.shift_token, shifted.table]
  split
  · exact shifted.report site _
  split
  · rename_i table _
    exact ⟨shifted.setTable table, rfl⟩
  · refine ⟨⟨rfl, ?_, shifted.evaluated, shifted.resume⟩, rfl⟩
    intro k
    exact mem_append_map_add n k (shifted.refused k) [site.position]

private theorem endStatement (previous : Token) :
    Progress.Shifted n (later.endStatement (site.shift n) previous)
      (first.endStatement site previous) := by
  unfold State.endStatement
  repeat' split
  all_goals first | exact shifted.idle | exact shifted.report site _

private theorem destination (position : Nat) (target : Token) :
    later.destination (n + position) target (site.shift n) =
      ((first.destination position target site).1,
        (first.destination position target site).2.map (Event.shift n)) := by
  have same : later.refused.contains (n + position) = first.refused.contains position := by
    rw [Bool.eq_iff_iff, List.contains_iff_mem, List.contains_iff_mem]
    exact shifted.refused position
  unfold State.destination
  rw [same, shifted.table]
  split
  · rfl
  · split <;> rfl

private theorem store (target : String) (value : Value) (mismatch : Problem) :
    Ruling.Shifted n (later.store (site.shift n) target value mismatch)
      (first.store site target value mismatch) := by
  unfold State.store
  rw [shifted.table]
  split
  · exact ⟨shifted.idle, rfl⟩
  · split
    · exact ⟨⟨shifted.setTable _, rfl⟩, rfl⟩
    · exact ⟨shifted.report site mismatch, rfl⟩

private theorem storeOutcome (target : String) (outcome : Outcome) :
    Progress.Shifted n (later.storeOutcome (site.shift n) target outcome)
      (first.storeOutcome site target outcome) := by
  cases outcome with
  | failed => exact shifted.idle
  | void => exact shifted.report site _
  | value value => exact (shifted.store site target value _).progress

private theorem fold (operator : Operator) (op target : Token) (value : Value) :
    Progress.Shifted n (later.fold (site.shift n) operator op target value)
      (first.fold site operator op target value) := by
  unfold State.fold
  rw [shifted.table]
  split
  · exact shifted.report site _
  · exact shifted.report site _
  · split
    · exact shifted.report site _
    · split
      · exact shifted.report site _
      · exact ⟨shifted.setTable _, rfl⟩

end State.Shifted

/-! ### Rules that look at the tokens -/

structure OperandResult.Shifted (n : Nat) (later first : OperandResult) : Prop where
  operand : later.operand = first.operand.map fun operand => ⟨operand.value, n + operand.last⟩
  call : (later.call = none ∧ first.call = none) ∨
    ∃ call other, later.call = some call ∧ first.call = some other ∧ CallResult.Shifted n call other
  events : later.events = first.events.map (Event.shift n)

theorem State.Shifted.notingOperand {n : Nat} {later first : State} {read other : OperandResult}
    (shifted : State.Shifted n later first) (same : OperandResult.Shifted n read other) :
    State.Shifted n (later.notingOperand read) (first.notingOperand other) := by
  unfold State.notingOperand
  rcases same.call with ⟨none, nothing⟩ | ⟨call, made, found, met, calls⟩
  · rw [none, nothing]
    exact shifted
  · rw [found, met]
    exact shifted.noting calls

namespace Script

variable {script : Script} {front behind : List Token} {later first : State} {k : Nat}

section

variable (shifted : State.Shifted front.length later first)
include shifted

theorem foldAt_within {target : Nat} (aimed : target < script.tokens.length) (operator : Operator)
    (op current : Token) (value : Value) :
    Progress.Shifted front.length
      ((script.within front behind).foldAt later (front.length + k) (front.length + target) operator op
        current value)
      (script.foldAt first k target operator op current value) := by
  have same : later.refused.contains (front.length + target) = first.refused.contains target := by
    rw [Bool.eq_iff_iff, List.contains_iff_mem, List.contains_iff_mem]
    exact shifted.refused target
  unfold foldAt
  rw [same, getElem?_within aimed]
  split
  · exact shifted.idle
  · split
    · exact shifted.idle
    · exact shifted.fold ⟨k, current⟩ operator op _ value

private theorem useOperand_within {read other : OperandResult}
    (same : OperandResult.Shifted front.length read other)
    (aim : (script.within front behind).foldTarget later (front.length + k) =
      (script.foldTarget first k).map (front.length + ·))
    (aimed : ∀ target, script.foldTarget first k = some target → target < script.tokens.length)
    (operator : Operator) (op current : Token) :
    Progress.Shifted front.length
      ((script.within front behind).useOperand later (front.length + k) operator op current read)
      (script.useOperand first k operator op current other) := by
  unfold useOperand
  rw [aim, same.operand]
  cases other.operand with
  | none => exact ⟨shifted, same.events⟩
  | some operand =>
    cases found : script.foldTarget first k with
    | none => exact ⟨shifted, same.events⟩
    | some target =>
      dsimp only [Option.map_some]
      rw [same.events]
      apply Progress.Shifted.after
      exact foldAt_within (shifted.chain _ _) (aimed target found) operator op current operand.value

end

section

variable (closed : script.Closed front behind) (inside : k < script.tokens.length)
  (shifted : State.Shifted front.length later first)
include closed inside

theorem operand_within (table : Table) (op current : Token) :
    OperandResult.Shifted front.length
      ((script.within front behind).operand table (front.length + k) op current)
      (script.operand table k op current) := by
  unfold operand
  rw [isCallee_within closed inside]
  dsimp only
  split
  · rename_i callee
    have same := evaluate_within closed callee table current
    rw [same.outcome, same.close]
    cases (script.evaluate table k current).outcome with
    | failed => exact ⟨rfl, .inr ⟨_, _, rfl, rfl, same⟩, same.events⟩
    | void =>
      refine ⟨rfl, .inr ⟨_, _, rfl, rfl, same⟩, ?_⟩
      dsimp only
      rw [List.map_append, same.events]
      rfl
    | value value =>
      cases (script.evaluate table k current).close with
      | none => exact ⟨rfl, .inr ⟨_, _, rfl, rfl, same⟩, same.events⟩
      | some last => exact ⟨rfl, .inr ⟨_, _, rfl, rfl, same⟩, same.events⟩
  · split
    · exact ⟨rfl, .inl ⟨rfl, rfl⟩, rfl⟩
    · split
      · exact ⟨rfl, .inl ⟨rfl, rfl⟩, rfl⟩
      · split <;> exact ⟨rfl, .inl ⟨rfl, rfl⟩, rfl⟩

include shifted

omit shifted in
private theorem evaluateFresh_within {declared other : Progress} (current : Token)
    (same : Progress.Shifted front.length declared other) :
    Progress.Shifted front.length
      ((script.within front behind).evaluateFresh (front.length + k) current declared)
      (script.evaluateFresh k current other) := by
  have noted : declared.state.evaluated.contains (front.length + k) = other.state.evaluated.contains k := by
    rw [Bool.eq_iff_iff, List.contains_iff_mem, List.contains_iff_mem]
    exact same.state.evaluated k
  unfold evaluateFresh
  rw [isCallee_within closed inside, noted, same.state.table]
  split
  · rename_i fresh
    have call := evaluate_within closed (Bool.and_eq_true _ _ ▸ fresh).1 other.state.table current
    refine ⟨same.state.noting call, ?_⟩
    dsimp only
    rw [List.map_append, same.events, call.events]
  · exact same

private theorem enterValue_within (previous current : Token) :
    Progress.Shifted front.length
      ((script.within front behind).enterValue later (front.length + k) previous current)
      (script.enterValue first k previous current) := by
  rw [enterValue_eq, enterValue_eq]
  split
  · exact shifted.report ⟨k, current⟩ _
  · apply evaluateFresh_within closed inside
    cases previous.kind.declares? with
    | some type => exact shifted.declare ⟨k, current⟩ type
    | none => exact shifted.idle

private theorem checkGrammar_within (previous current : Token) :
    Progress.Shifted front.length
      ((script.within front behind).checkGrammar later (front.length + k) previous current)
      (script.checkGrammar first k previous current) := by
  unfold checkGrammar
  dsimp only
  split
  case h_1 | h_2 | h_4 | h_5 | h_6 | h_7 =>
    split
    · exact shifted.idle
    · exact shifted.report ⟨k, current⟩ _
  case h_3 => exact shifted.endStatement ⟨k, current⟩ previous
  case h_8 | h_9 => exact enterValue_within closed inside shifted previous current
  all_goals exact shifted.idle

private theorem assign_within (reaches : front = [] ∨ 2 ≤ k) (target current : Token) :
    Ruling.Shifted front.length
      ((script.within front behind).assign later (front.length + k) target current)
      (script.assign first k target current) := by
  have position : front.length + k - 2 = front.length + (k - 2) := by
    rcases reaches with rfl | reaches
    · simp
    · omega
  have settled := shifted.destination ⟨k, current⟩ (k - 2) target
  unfold assign
  rw [isCallee_within closed inside, position]
  simp only [Site.shift] at settled
  simp only [settled]
  split
  · rename_i callee
    have call := evaluate_within closed callee first.table current
    rw [shifted.table, call.events, call.outcome, ← List.map_append]
    refine ⟨Progress.Shifted.after ?_ _, rfl⟩
    cases (first.destination (k - 2) target ⟨k, current⟩).1 with
    | some name => exact (shifted.noting call).storeOutcome ⟨k, current⟩ name _
    | none => exact (shifted.noting call).idle
  · split
    · split
      · exact ⟨(shifted.report ⟨k, current⟩ _).after _, rfl⟩
      · exact ⟨⟨shifted, rfl⟩, rfl⟩
    · rw [shifted.table]
      split
      · exact ⟨(shifted.report ⟨k, current⟩ _).after _, rfl⟩
      · exact ⟨(shifted.report ⟨k, current⟩ _).after _, rfl⟩
      · split
        · exact ⟨⟨shifted, rfl⟩, rfl⟩
        · have stored := shifted.store ⟨k, current⟩
          exact ⟨(stored _ _ _).progress.after _, (stored _ _ _).continues⟩

section

variable (agrees : (script.within front behind).ChainAgrees later) (agreed : script.ChainAgrees first)
include agrees agreed

private theorem combine_within (reaches : front = [] ∨ 2 ≤ k) {op : Token} {operator : Operator}
    (before : script.before? k 1 = some op) (isOperator : op.kind.operator? = some operator)
    (current : Token) :
    Progress.Shifted front.length
      ((script.within front behind).combine later (front.length + k) operator op current)
      (script.combine first k operator op current) := by
  have operates : op.kind.operator?.isSome := by
    rw [isOperator]
    rfl
  have visited : front = [] ∨ 1 ≤ k := reaches.imp_right Nat.le_of_succ_le
  have beforeWithin : (script.within front behind).before? (front.length + k) 1 = some op := by
    rw [before?_within visited inside, before]
  have left : (script.within front behind).hasLeft (front.length + k) = script.hasLeft k := by
    rw [hasLeft, hasLeft, before?_within reaches inside]
  have read := operand_within closed inside first.table op current
  unfold combine
  rw [left, shifted.table]
  split
  · exact shifted.idle
  apply useOperand_within (shifted.notingOperand read) read
  · rw [foldTarget_of_notes (State.notes_notingOperand ..), foldTarget_of_notes
      (State.notes_notingOperand ..), agrees.foldTarget beforeWithin operates,
      agreed.foldTarget before operates, nearest?_within closed visited (Nat.le_of_lt inside)]
  · intro target aim
    rw [foldTarget_of_notes (State.notes_notingOperand ..), agreed.foldTarget before operates] at aim
    exact Nat.lt_trans (lt_of_nearest? aim) inside

theorem follow_within (visited : front = [] ∨ 1 ≤ k) {previous : Token}
    (before : script.before? k 1 = some previous) (current : Token) :
    Progress.Shifted front.length
      ((script.within front behind).follow later (front.length + k) previous current)
      (script.follow first k previous current) := by
  by_cases reaches : front = [] ∨ 2 ≤ k
  · unfold follow
    rw [before?_within reaches inside]
    cases isOperator : previous.kind.operator? with
    | some operator =>
      exact combine_within closed inside shifted agrees agreed reaches before isOperator current
    | none =>
      dsimp only
      split
      · exact checkGrammar_within closed inside shifted previous current
      · rename_i target _
        have ruling := assign_within closed inside shifted reaches target current
        rw [ruling.continues, ruling.progress.events]
        split
        · exact (checkGrammar_within closed inside ruling.progress.state previous current).after _
        · exact ruling.progress
  · -- The position before this one ends a statement, so no rule looks further back.
    obtain ⟨notFirst, short⟩ := not_or.mp reaches
    obtain rfl : k = 1 := by
      have := visited.resolve_left notFirst
      omega
    obtain ⟨t, first, ends⟩ := closed.first.resolve_left notFirst
    obtain rfl : previous = t := by simpa [before?, first] using before.symm
    have notOperator : previous.kind.operator? = none := by
      cases kind : previous.kind <;> simp [kind, Kind.endsStatement, Kind.isScope] at ends <;> rfl
    have notEquals : previous.kind ≠ .equals := by
      intro kind
      simp [kind, Kind.endsStatement, Kind.isScope] at ends
    rw [follow_eq_checkGrammar current notOperator notEquals,
      follow_eq_checkGrammar current notOperator notEquals]
    exact checkGrammar_within closed inside shifted previous current

/-- A step does the same in the longer script. -/
theorem step_within (visited : front = [] ∨ 1 ≤ k) :
    Progress.Shifted front.length ((script.within front behind).step later (front.length + k))
      (script.step first k) := by
  have skips : front.length + k < later.resume ↔ k < first.resume := by
    rw [← shifted.resume]
    omega
  have read := List.getElem?_eq_getElem inside
  unfold step
  rw [getElem?_within inside, before?_within visited inside, read]
  by_cases skipped : k < first.resume
  · rw [if_pos skipped, if_pos (skips.mpr skipped)]
    exact shifted.idle
  rw [if_neg skipped, if_neg (mt skips.mp skipped)]
  dsimp only
  cases before : script.before? k 1 with
  | some previous => exact follow_within closed inside shifted agrees agreed visited before _
  | none =>
    dsimp only
    unfold State.begin
    split
    · exact shifted.idle
    · exact shifted.report ⟨k, _⟩ _

end

end

end Script

end ScriptCheck
