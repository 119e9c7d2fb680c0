import Mathlib.Data.List.Nodup
import ScriptCheck.Proofs.Run.Rules

/-! # The calls of a run

At a position a run makes no call, or it evaluates the call whose callee stands there
(`Script.calls_step`). Only the rules for the token after an operator and after an equal sign
evaluate a callee without asking whether that has been done, and such a callee begins no argument.
`closings_increasing` puts the calls of all positions in order.
-/

namespace ScriptCheck

namespace State

/-- A fold changes the variables and nothing else. -/
theorem fold_state (state : State) (site : Site) (operator : Operator) (op target : Token)
    (value : Value) :
    (state.fold site operator op target value).state =
      { state with table := (state.fold site operator op target value).state.table } := by
  rcases state.fold_cases site operator op target value with same | ⟨_, _, _, _, same⟩
  · rw [same]
  · rw [same]

private theorem invocations_fold (state : State) (site : Site) (operator : Operator) (op target : Token)
    (value : Value) : (state.fold site operator op target value).invocations = [] := by
  unfold fold
  split
  · rfl
  · rfl
  · split
    · rfl
    · split <;> rfl

/-- A store changes the variables and nothing else. -/
theorem store_state (state : State) (site : Site) (target : String) (value : Value)
    (mismatch : Problem) :
    (state.store site target value mismatch).progress.state =
      { state with table := (state.store site target value mismatch).progress.state.table } := by
  rcases state.store_cases site target value mismatch with same | ⟨_, _, _, same⟩
  · rw [same]
  · rw [same]

private theorem invocations_store (state : State) (site : Site) (target : String) (value : Value)
    (mismatch : Problem) :
    (state.store site target value mismatch).progress.invocations = [] := by
  unfold store
  split
  · rfl
  · split <;> rfl

theorem storeOutcome_state (state : State) (site : Site) (target : String) (outcome : Outcome) :
    (state.storeOutcome site target outcome).state =
      { state with table := (state.storeOutcome site target outcome).state.table } := by
  cases outcome with
  | failed => rfl
  | void => rfl
  | value value => exact state.store_state ..

private theorem invocations_storeOutcome (state : State) (site : Site) (target : String)
    (outcome : Outcome) : (state.storeOutcome site target outcome).invocations = [] := by
  cases outcome with
  | failed => rfl
  | void => rfl
  | value value => exact state.invocations_store ..

private theorem invocations_destination (state : State) (position : Nat) (target : Token) (site : Site) :
    (state.destination position target site).2.filterMap Event.invocation? = [] := by
  unfold destination
  split
  · rfl
  · split <;> rfl

/-- A declaration changes the variables and the refused positions and nothing else. -/
theorem declare_state (state : State) (site : Site) (type : ValueType) :
    (state.declare site type).state =
      { state with
        table := (state.declare site type).state.table
        refused := (state.declare site type).state.refused } := by
  rcases state.declare_cases site type with same | ⟨_, _, same⟩ | same
  · rw [same]
  · rw [same]
  · rw [same]

private theorem invocations_declare (state : State) (site : Site) (type : ValueType) :
    (state.declare site type).invocations = [] := by
  unfold declare
  dsimp only
  split
  · rfl
  · split <;> rfl

end State

namespace Script

variable {script : Script} {state : State} {i : Nat} {progress : Progress}

/-- What a rule at position `i` does about calls: nothing, or it evaluates the callee at `i`. A callee
that has been evaluated already is left alone where an argument begins. -/
inductive Calls (script : Script) (state : State) (i : Nat) (progress : Progress) : Prop
  | none (silent : progress.invocations = [])
      (evaluated : progress.state.evaluated = state.evaluated)
      (resume : progress.state.resume = state.resume)
  | call (t : Token) (table : Table) (read : script.tokens[i]? = some t)
      (callee : script.isCallee i = true)
      (fresh : i ∈ state.evaluated → ¬ script.BeginsArgument i)
      (made : progress.invocations = (script.evaluate table i t).invocations)
      (evaluated : progress.state.evaluated =
        state.evaluated ++ (script.evaluate table i t).callees)
      (resume : progress.state.resume = max state.resume (script.evaluate table i t).resume)

private theorem Calls.of_state {script : Script} {state : State} {i : Nat} {progress : Progress}
    (silent : progress.invocations = []) (same : progress.state = state) :
    script.Calls state i progress :=
  .none silent (by rw [same]) (by rw [same])

/-- A rule that makes no call may come first. -/
theorem Calls.after_silent {first : State} {events : List Event}
    (calls : script.Calls first i progress) (silent : events.filterMap Event.invocation? = [])
    (evaluated : first.evaluated = state.evaluated) (resume : first.resume = state.resume) :
    script.Calls state i (progress.after events) := by
  have same : (progress.after events).invocations = progress.invocations := by
    rw [Progress.invocations_after, silent, List.nil_append]
  cases calls with
  | none quiet noted skips =>
    exact .none (same.trans quiet) (noted.trans evaluated) (skips.trans resume)
  | call t table read callee fresh made noted skips =>
    rw [evaluated] at fresh noted
    rw [resume] at skips
    exact .call t table read callee fresh (same.trans made) noted skips

/-! ### Rule by rule -/

/-- What follows another token than an opening parenthesis or a comma begins no argument. -/
theorem not_beginsArgument {previous : Token} (before : script.before? i 1 = some previous)
    (notOpening : previous.kind ≠ .openParen) (notComma : previous.kind ≠ .comma) :
    ¬ script.BeginsArgument i := by
  rintro ⟨t, found, kind⟩
  obtain rfl : previous = t := by simpa [before] using found
  exact kind.elim notOpening notComma

/-- A callee that has not been evaluated is evaluated where it stands, after its declaration. -/
private theorem calls_evaluateFresh {current : Token} {declared : Progress}
    (read : script.tokens[i]? = some current) (silent : declared.invocations = [])
    (evaluated : declared.state.evaluated = state.evaluated)
    (resume : declared.state.resume = state.resume) :
    script.Calls state i (script.evaluateFresh i current declared) := by
  unfold evaluateFresh
  split
  · rename_i calls
    simp only [Bool.and_eq_true, Bool.not_eq_true', List.contains_eq_mem, decide_eq_false_iff_not]
      at calls
    refine .call current declared.state.table read calls.1 ?_ ?_ ?_ ?_
    · intro member
      rw [evaluated] at calls
      exact absurd member calls.2
    · simp only [Progress.invocations, List.filterMap_append] at silent ⊢
      rw [silent]
      rfl
    · simp only [State.noting, evaluated]
    · simp only [State.noting, resume]
  · exact .none silent evaluated resume

private theorem calls_enterValue {previous current : Token} (read : script.tokens[i]? = some current) :
    script.Calls state i (script.enterValue state i previous current) := by
  rw [enterValue_eq]
  split
  · exact .of_state rfl rfl
  · cases previous.kind.declares? with
    | some type =>
      have kept := state.declare_state ⟨i, current⟩ type
      exact calls_evaluateFresh read (state.invocations_declare ..) (by rw [kept]) (by rw [kept])
    | none => exact calls_evaluateFresh read rfl rfl rfl

private theorem calls_checkGrammar {previous current : Token} (read : script.tokens[i]? = some current) :
    script.Calls state i (script.checkGrammar state i previous current) := by
  unfold checkGrammar
  dsimp only
  split
  case h_1 | h_2 | h_4 | h_5 | h_6 | h_7 => split <;> exact .of_state rfl rfl
  case h_3 =>
    unfold State.endStatement
    repeat' split
    all_goals exact .of_state rfl rfl
  case h_8 | h_9 => exact calls_enterValue read
  all_goals exact .of_state rfl rfl

theorem foldAt_state (script : Script) (state : State) (i target : Nat) (operator : Operator)
    (op current : Token) (value : Value) :
    (script.foldAt state i target operator op current value).state =
      { state with
        table := (script.foldAt state i target operator op current value).state.table } := by
  unfold foldAt
  split
  · rfl
  · split
    · rfl
    · exact state.fold_state ..

private theorem invocations_foldAt (script : Script) (state : State) (i target : Nat) (operator : Operator)
    (op current : Token) (value : Value) :
    (script.foldAt state i target operator op current value).invocations = [] := by
  unfold foldAt
  split
  · rfl
  · split
    · rfl
    · exact state.invocations_fold ..

/-- An operand is a call that is evaluated, or it makes no call. -/
theorem call_operand (script : Script) (table : Table) (i : Nat) (op current : Token) :
    (script.isCallee i = false ∧ (script.operand table i op current).call = none ∧
        (script.operand table i op current).events.filterMap Event.invocation? = []) ∨
      (script.isCallee i = true ∧
        (script.operand table i op current).call = some (script.evaluate table i current) ∧
        (script.operand table i op current).events.filterMap Event.invocation? =
          (script.evaluate table i current).invocations) := by
  unfold operand
  dsimp only
  split
  · rename_i callee
    right
    refine ⟨callee, ?_⟩
    split
    · exact ⟨rfl, rfl⟩
    · exact ⟨rfl, by simp [CallResult.invocations]⟩
    · exact ⟨rfl, rfl⟩
  · rename_i notCallee
    have single : script.isCallee i = false := by simpa using notCallee
    left
    repeat' split
    all_goals exact ⟨single, rfl, rfl⟩

/-- Using an operand changes the variables and the chain and nothing else. -/
theorem useOperand_state (script : Script) (state : State) (i : Nat) (operator : Operator)
    (op current : Token) (read : OperandResult) :
    (script.useOperand state i operator op current read).state =
      { state with
        table := (script.useOperand state i operator op current read).state.table
        chain := (script.useOperand state i operator op current read).state.chain } := by
  unfold useOperand
  split
  · rw [Progress.after_state, foldAt_state]
  · rfl

private theorem invocations_useOperand (script : Script) (state : State) (i : Nat) (operator : Operator)
    (op current : Token) (read : OperandResult) :
    (script.useOperand state i operator op current read).invocations =
      read.events.filterMap Event.invocation? := by
  unfold useOperand
  split
  · rw [Progress.invocations_after, invocations_foldAt, List.append_nil]
  · rfl

private theorem calls_combine {operator : Operator} {op current : Token}
    (read : script.tokens[i]? = some current) (before : script.before? i 1 = some op)
    (isOperator : op.kind.operator? = some operator) :
    script.Calls state i (script.combine state i operator op current) := by
  unfold combine
  dsimp only
  split
  · exact .of_state rfl rfl
  rcases script.call_operand state.table i op current with
    ⟨_, single, silent⟩ | ⟨callee, call, made⟩
  · simp only [State.notingOperand, single]
    exact .none ((script.invocations_useOperand ..).trans silent) (by rw [useOperand_state])
      (by rw [useOperand_state])
  · simp only [State.notingOperand, call]
    refine .call current state.table read callee (fun _ => ?_)
      ((script.invocations_useOperand ..).trans made) (by rw [useOperand_state]; rfl)
      (by rw [useOperand_state]; rfl)
    apply not_beginsArgument before
    · intro kind
      simp [kind, Kind.operator?] at isOperator
    · intro kind
      simp [kind, Kind.operator?] at isOperator

private theorem calls_assign {target current previous : Token}
    (read : script.tokens[i]? = some current) (before : script.before? i 1 = some previous)
    (kind : previous.kind = .equals) :
    script.Calls state i (script.assign state i target current).progress := by
  have silent := state.invocations_destination (i - 2) target ⟨i, current⟩
  unfold assign
  dsimp only
  split
  · rename_i callee
    have fresh : ¬ script.BeginsArgument i := not_beginsArgument before (by simp [kind]) (by simp [kind])
    split
    · rename_i name _
      refine .call current state.table read callee (fun _ => fresh) ?_
        (by rw [Progress.after_state, State.storeOutcome_state]; rfl)
        (by rw [Progress.after_state, State.storeOutcome_state]; rfl)
      rw [Progress.invocations_after, State.invocations_storeOutcome, List.filterMap_append, silent,
        List.nil_append, List.append_nil]
      rfl
    · refine .call current state.table read callee (fun _ => fresh) ?_ rfl rfl
      rw [Progress.invocations_after, List.filterMap_append, silent, List.nil_append]
      exact List.append_nil _
  · have quiet : script.Calls state i ⟨state, (state.destination (i - 2) target ⟨i, current⟩).2⟩ :=
      .none silent rfl rfl
    split
    · split
      · exact (Calls.of_state rfl rfl).after_silent silent rfl rfl
      · exact quiet
    · split
      · exact (Calls.of_state rfl rfl).after_silent silent rfl rfl
      · exact (Calls.of_state rfl rfl).after_silent silent rfl rfl
      · split
        · exact quiet
        · exact (Calls.none (state.invocations_store ..) (by rw [State.store_state])
            (by rw [State.store_state])).after_silent silent rfl rfl

theorem continues_assign_of_isCallee {target current : Token} (callee : script.isCallee i = true) :
    (script.assign state i target current).continues = false := by
  simp [assign, callee]

private theorem calls_follow {previous current : Token} (read : script.tokens[i]? = some current)
    (before : script.before? i 1 = some previous) :
    script.Calls state i (script.follow state i previous current) := by
  unfold follow
  split
  · rename_i operator isOperator
    exact calls_combine read before isOperator
  · split
    · exact calls_checkGrammar read
    · rename_i target found
      have kind : previous.kind = .equals := by
        split at found
        · assumption
        · cases found
      have calls : script.Calls state i (script.assign state i target current).progress :=
        calls_assign read before kind
      dsimp only
      split
      · rename_i goesOn
        cases calls with
        | none silent evaluated resume =>
          exact (calls_checkGrammar read).after_silent silent evaluated resume
        | call _ _ _ callee =>
          rw [continues_assign_of_isCallee callee] at goesOn
          cases goesOn
      · exact calls

theorem calls_step (script : Script) (state : State) (i : Nat) :
    script.Calls state i (script.step state i) := by
  unfold step
  split
  · exact .of_state rfl rfl
  · split
    · exact .of_state rfl rfl
    · rename_i current read
      split
      · unfold State.begin
        split <;> exact .of_state rfl rfl
      · rename_i previous before
        exact calls_follow read before

/-- What a run has noted as evaluated are callees. -/
theorem isCallee_of_mem_evaluated (script : Script) (i : Nat) :
    ∀ c ∈ (script.stateAt i).evaluated, script.isCallee c = true := by
  refine script.stateAt_induct (motive := fun _ state => ∀ c ∈ state.evaluated, script.isCallee c = true)
    (by simp) ?_ i
  intro i ih
  rcases script.calls_step (script.stateAt i) i with
    ⟨_, same, _⟩ | ⟨t, table, _, callee, _, _, more, _⟩
  · rw [progressAt, same]
    exact ih
  · rw [progressAt, more]
    exact List.forall_mem_append.mpr ⟨ih, isCallee_of_mem_evaluate callee⟩

/-! ### The whole run -/

def callsBefore (script : Script) (n : Nat) : List Invocation :=
  (List.range n).flatMap fun i => (script.progressAt i).invocations

private theorem callsBefore_succ (script : Script) (n : Nat) :
    script.callsBefore (n + 1) = script.callsBefore n ++ (script.progressAt n).invocations := by
  rw [callsBefore, List.range_succ, List.flatMap_append, List.flatMap_singleton]
  rfl

theorem invocations_run (script : Script) :
    script.run.invocations = script.callsBefore script.size := by
  rw [Progress.invocations, run_events, List.filterMap_flatMap]
  rfl

/-- What is known before position `n`: the calls so far are in order and close before `bound`, and from
`n` on up to there no further call is made, because the position is skipped, or no callee stands there,
or it is the callee of an argument and has been evaluated. -/
structure InOrder (script : Script) (n bound : Nat) : Prop where
  increasing : ((script.callsBefore n).map (·.close)).Pairwise (· < ·)
  before : ∀ call ∈ script.callsBefore n, call.close < bound
  settled : ∀ j, n ≤ j → j < bound → script.isCallee j = true →
    j < (script.stateAt n).resume ∨ (j ∈ (script.stateAt n).evaluated ∧ script.BeginsArgument j)

private theorem inOrder_succ_of_none {n bound : Nat} (order : script.InOrder n bound)
    (silent : (script.progressAt n).invocations = [])
    (evaluated : (script.progressAt n).state.evaluated = (script.stateAt n).evaluated)
    (resume : (script.progressAt n).state.resume = (script.stateAt n).resume) :
    script.InOrder (n + 1) bound := by
  have same : script.callsBefore (n + 1) = script.callsBefore n := by
    rw [callsBefore_succ, silent, List.append_nil]
  refine ⟨same ▸ order.increasing, same ▸ order.before, ?_⟩
  intro j behind within callee
  rw [stateAt_succ, evaluated, resume]
  exact order.settled j (by omega) within callee

/-- A call that is evaluated behind all calls so far keeps them in order. -/
theorem exists_inOrder_succ_of_call {n bound : Nat} {t : Token} {table : Table}
    (order : script.InOrder n bound) (behind : bound ≤ n) (callee : script.isCallee n = true)
    (made : (script.progressAt n).invocations = (script.evaluate table n t).invocations)
    (evaluated : (script.progressAt n).state.evaluated =
      (script.stateAt n).evaluated ++ (script.evaluate table n t).callees)
    (resume : (script.progressAt n).state.resume =
      max (script.stateAt n).resume (script.evaluate table n t).resume) :
    ∃ bound, script.InOrder (n + 1) bound := by
  have ordered := ordered_evaluate table t callee
  have increasing : ((script.callsBefore (n + 1)).map (·.close)).Pairwise (· < ·) := by
    rw [callsBefore_succ, List.map_append, List.pairwise_append, made]
    refine ⟨order.increasing, ordered.increasing, ?_⟩
    intro first isEarlier second isLater
    obtain ⟨earlier, member, rfl⟩ := List.mem_map.mp isEarlier
    obtain ⟨later, new, rfl⟩ := List.mem_map.mp isLater
    have := order.before earlier member
    have := ordered.from_position later new
    omega
  have bounded : ∀ limit, n < limit →
      (∀ call ∈ (script.evaluate table n t).invocations, call.close < limit) →
      ∀ call ∈ script.callsBefore (n + 1), call.close < limit := by
    intro limit beyond new call member
    rw [callsBefore_succ, List.mem_append, made] at member
    rcases member with member | member
    · have := order.before call member
      omega
    · exact new call member
  cases closed : (script.evaluate table n t).close with
  | some e =>
    obtain ⟨reaches, upTo⟩ := ordered.up_to_close e closed
    refine ⟨e + 1, increasing, bounded (e + 1) (by omega) ?_, ?_⟩
    · intro call member
      have := upTo call member
      omega
    · intro j later within calls
      obtain ⟨noted, begins⟩ := covers_evaluate callee closed (by omega) (by omega) calls
      right
      refine ⟨?_, begins⟩
      rw [stateAt_succ, evaluated]
      exact List.mem_append_right _ noted
  | none =>
    obtain ⟨reaches, upTo⟩ := ordered.up_to_resume closed
    refine ⟨(script.evaluate table n t).resume, increasing, bounded _ (by omega) upTo, ?_⟩
    intro j later within calls
    left
    rw [stateAt_succ, resume]
    exact Nat.lt_of_lt_of_le within (Nat.le_max_right ..)

private theorem exists_inOrder (script : Script) (n : Nat) : ∃ bound, script.InOrder n bound := by
  induction n with
  | zero => exact ⟨0, List.Pairwise.nil, by simp [callsBefore], by simp⟩
  | succ n ih =>
    obtain ⟨bound, order⟩ := ih
    by_cases skipped : n < (script.stateAt n).resume
    · have idle : script.progressAt n = (script.stateAt n).idle :=
        step_eq_idle fun visited => Nat.not_lt.mpr visited.1 skipped
      refine ⟨bound, inOrder_succ_of_none order ?_ ?_ ?_⟩
      all_goals
        rw [idle]
        rfl
    cases script.calls_step (script.stateAt n) n with
    | none silent evaluated resume =>
      exact ⟨bound, inOrder_succ_of_none order silent evaluated resume⟩
    | call t table read callee fresh made evaluated resume =>
      -- The callee at `n` is not settled, so it stands behind all calls so far.
      have behind : bound ≤ n := by
        apply Nat.le_of_not_lt
        intro within
        rcases order.settled n (Nat.le_refl n) within callee with skip | ⟨noted, begins⟩
        · exact skipped skip
        · exact fresh noted begins
      exact exists_inOrder_succ_of_call order behind callee made evaluated resume

/-- Every call of a run is that of a callee and closes at the matching parenthesis. -/
theorem delimits_run_invocations (script : Script) :
    ∀ call ∈ script.run.invocations, script.Delimits call := by
  rw [invocations_run]
  intro call member
  obtain ⟨i, _, made⟩ := List.mem_flatMap.mp member
  rcases script.calls_step (script.stateAt i) i with
    ⟨silent, _, _⟩ | ⟨t, table, read, callee, _, evaluates, _, _⟩
  · rw [progressAt, silent] at made
    cases made
  · rw [progressAt, evaluates] at made
    exact delimits_evaluate read callee call made

/-- A run reaches the registry at most once for a callee. -/
theorem eq_of_callee {first second : Invocation} (one : first ∈ script.run.invocations)
    (two : second ∈ script.run.invocations) (same : first.callee.position = second.callee.position) :
    first = second := by
  obtain ⟨_, order⟩ := script.exists_inOrder script.size
  have increasing := order.increasing
  rw [← invocations_run] at increasing
  have atFirst := (script.delimits_run_invocations first one).2.2
  have atSecond := (script.delimits_run_invocations second two).2.2
  rw [same] at atFirst
  exact List.inj_on_of_nodup_map (increasing.imp Nat.ne_of_lt) one two (atFirst.unique atSecond)

/-- The recorded operations are those of the calls, one call after the other. -/
theorem operations_report (script : Script) :
    script.report.operations =
      script.run.invocations.flatMap fun call => Event.operations (.called call) := by
  change script.run.events.flatMap Event.operations = _
  rw [Progress.invocations]
  induction script.run.events with
  | nil => rfl
  | cons event rest ih =>
    rw [List.flatMap_cons, ih]
    cases event <;> rfl

/-- The calls of a run that reach the registry, whether they are run or refused, come in the order of
their closing parentheses, each the one that matches the opening parenthesis of its callee. So no callee
is called twice, and the operations are recorded in the order of the closing parentheses. What a call does
to the world outside are these operations and nothing else: a native is a function of its arguments that
gives a value and operations to record. -/
theorem closings_increasing (script : Script) :
    (script.run.invocations.map (·.close)).Pairwise (· < ·) ∧
      (∀ call ∈ script.run.invocations, script.Delimits call) ∧
      (script.run.invocations.map (·.callee.position)).Nodup ∧
      script.report.operations =
        script.run.invocations.flatMap fun call => Event.operations (.called call) := by
  have delimits := script.delimits_run_invocations
  obtain ⟨_, order⟩ := script.exists_inOrder script.size
  have increasing := order.increasing
  rw [← invocations_run] at increasing
  refine ⟨increasing, delimits, ?_, script.operations_report⟩
  rw [List.Nodup, List.pairwise_map]
  rw [List.pairwise_map] at increasing
  apply increasing.imp_of_mem
  intro first second isFirst isSecond before same
  have atFirst := (delimits first isFirst).2.2
  have atSecond := (delimits second isSecond).2.2
  rw [same] at atFirst
  exact Nat.ne_of_lt before (atFirst.unique atSecond)

end Script

end ScriptCheck
