import ScriptCheck.Proofs.Call.Malformed
import ScriptCheck.Proofs.Run.Braces

/-! # Calls that are given up

A call with an argument list that cannot be read is given up, and nothing more comes of it: the assignment or the
operator that it stands in leaves the variables alone, the tokens up to the end of the statement are skipped, and the
token there is at most reported. The list is reported once, by the innermost call that is malformed
(`Script.abandoned_call`).
-/

namespace ScriptCheck

namespace State

variable (state : State) (site : Site)

private theorem calm_destination (position : Nat) (target : Token) :
    Event.Calm (state.destination position target site).2 :=
  (state.oneOf_destination site position target).calm fun _ => Problem.not_isMalformed_of_target

private theorem calm_storeOutcome (target : String) (outcome : Outcome) :
    Event.Calm (state.storeOutcome site target outcome).events := by
  apply (state.oneOf_storeOutcome site target outcome).calm
  rintro _ (rfl | rfl) <;> rfl

private theorem calm_declare (type : ValueType) : Event.Calm (state.declare site type).events :=
  (state.oneOf_declare site type).calm fun _ => Problem.not_isMalformed_of_declaration

end State

namespace Script

open Grammar

variable {script : Script} {state : State} {i : Nat} {t previous current : Token}

/-! ### The rules around a call -/

/-- A call that is given up has failed. -/
theorem outcome_of_abandoned (table : Table) (callee : script.isCallee i = true) (read : script.tokens[i]? = some t)
    (gaveUp : (script.evaluate table i t).close = none) : (script.evaluate table i t).outcome = .failed := by
  cases reading_evaluate callee read table with
  | closed close =>
    rw [gaveUp] at close
    cases close
  | abandoned abandons => exact abandons.outcome

/-- What a rule at position `i` does about calls: it evaluates none, or that of the callee which stands there. What
happens before it and behind it does not concern argument lists. A call that is given up is the last thing that
happens, and the variables stay as it has found them. -/
inductive Evaluation (script : Script) (state : State) (i : Nat) (progress : Progress) : Prop
  | none (calm : Event.Calm progress.events) (evaluated : progress.state.evaluated = state.evaluated)
      (resume : progress.state.resume = state.resume)
  | call {t : Token} {table : Table} {before behind : List Event} (read : script.tokens[i]? = some t)
      (callee : script.isCallee i = true)
      (events : progress.events = before ++ (script.evaluate table i t).events ++ behind)
      (quiet : Event.Calm before) (rest : Event.Calm behind)
      (evaluated : progress.state.evaluated = state.evaluated ++ (script.evaluate table i t).callees)
      (resume : progress.state.resume = max state.resume (script.evaluate table i t).resume)
      (kept : (script.evaluate table i t).close = .none → behind = [] ∧ progress.state.table = table)

private theorem Evaluation.of_state {progress : Progress} (calm : Event.Calm progress.events)
    (same : progress.state = state) : script.Evaluation state i progress :=
  .none calm (by rw [same]) (by rw [same])

private theorem calm_foldAt (script : Script) (state : State) (i target : Nat) (operator : Operator)
    (op current : Token)
    (value : Value) : Event.Calm (script.foldAt state i target operator op current value).events :=
  (oneOf_foldAt script state i target operator op current value).calm fun _ calm => calm

/-- Using an operand reports no argument list, and an operand without a value is not used. -/
theorem events_useOperand (script : Script) (state : State) (i : Nat) (operator : Operator) (op current : Token)
    (read : OperandResult) : ∃ behind,
      (script.useOperand state i operator op current read).events = read.events ++ behind ∧ Event.Calm behind ∧
        (read.operand = none → behind = [] ∧
          (script.useOperand state i operator op current read).state.table = state.table) := by
  unfold useOperand
  split
  · rename_i operand target value _
    refine ⟨_, rfl, calm_foldAt script _ i target operator op current operand.value, fun none => ?_⟩
    rw [none] at value
    cases value
  · exact ⟨[], (List.append_nil _).symm, Event.Clean.calm rfl, fun _ => ⟨rfl, rfl⟩⟩

section

variable (callee : script.isCallee i = true) (read : script.tokens[i]? = some current)
include callee read

/-- An operand that is a call is evaluated, and reported if it has no value. -/
theorem events_operand (table : Table) (op : Token) : ∃ behind,
    (script.operand table i op current).events = (script.evaluate table i current).events ++ behind ∧
      Event.Calm behind ∧ (script.operand table i op current).call = some (script.evaluate table i current) ∧
      ((script.evaluate table i current).close = none →
        behind = [] ∧ (script.operand table i op current).operand = none) := by
  have failed := outcome_of_abandoned table callee read
  simp only [operand, callee, if_true]
  split
  · rename_i closed
    refine ⟨[], (List.append_nil _).symm, Event.Clean.calm rfl, rfl, fun gaveUp => ?_⟩
    rw [closed] at gaveUp
    cases gaveUp
  · rename_i void
    refine ⟨_, rfl, Event.calm_reported rfl, rfl, fun gaveUp => ?_⟩
    rw [failed gaveUp] at void
    cases void
  · exact ⟨[], (List.append_nil _).symm, Event.Clean.calm rfl, rfl, fun _ => ⟨rfl, rfl⟩⟩

private theorem evaluation_combine (operator : Operator) (op : Token) :
    script.Evaluation state i (script.combine state i operator op current) := by
  obtain ⟨reported, events, calm, call, unread⟩ := events_operand callee read state.table op
  obtain ⟨behind, used, quiet, unused⟩ := script.events_useOperand
    (state.noting (script.evaluate state.table i current)) i operator op current
    (script.operand state.table i op current)
  unfold combine
  split
  · exact .of_state (Event.Clean.calm rfl) rfl
  simp only [State.notingOperand, call]
  refine @Evaluation.call script state i _ current state.table [] (reported ++ behind) read callee ?_
    (Event.Clean.calm rfl) (Event.calm_append.mpr ⟨calm, quiet⟩) ?_ ?_ fun gaveUp => ?_
  · rw [used, events, List.nil_append, List.append_assoc]
  · rw [useOperand_state]
    rfl
  · rw [useOperand_state]
    rfl
  · obtain ⟨rfl, none⟩ := unread gaveUp
    obtain ⟨rfl, kept⟩ := unused none
    exact ⟨rfl, kept⟩

private theorem evaluation_assign (target : Token) :
    script.Evaluation state i (script.assign state i target current).progress := by
  have failed := outcome_of_abandoned state.table callee read
  have settled := state.calm_destination ⟨i, current⟩ (i - 2) target
  simp only [assign, callee, if_true]
  split
  · rename_i name _
    refine .call read callee rfl settled (State.calm_storeOutcome _ _ name _) ?_ ?_ ?_
    · rw [Progress.after_state, State.storeOutcome_state]
      rfl
    · rw [Progress.after_state, State.storeOutcome_state]
      rfl
    · intro gaveUp
      rw [failed gaveUp]
      exact ⟨rfl, rfl⟩
  · exact .call read callee rfl settled (Event.Clean.calm rfl) rfl rfl fun _ => ⟨rfl, rfl⟩

private theorem evaluation_evaluateFresh {declared : Progress} (quiet : Event.Calm declared.events)
    (evaluated : declared.state.evaluated = state.evaluated) (resume : declared.state.resume = state.resume) :
    script.Evaluation state i (script.evaluateFresh i current declared) := by
  unfold evaluateFresh
  split
  · refine .call read callee (List.append_nil _).symm quiet (Event.Clean.calm rfl) ?_ ?_ fun _ => ⟨rfl, rfl⟩
    · simp only [State.noting, evaluated]
    · simp only [State.noting, resume]
  · exact .none quiet evaluated resume

private theorem evaluation_enterValue : script.Evaluation state i (script.enterValue state i previous current) := by
  rw [enterValue_eq]
  split
  · exact .of_state (Event.calm_reported rfl) rfl
  · cases previous.kind.declares? with
    | some type =>
      have kept := state.declare_state ⟨i, current⟩ type
      exact evaluation_evaluateFresh callee read (state.calm_declare ⟨i, current⟩ type) (by rw [kept])
        (by rw [kept])
    | none => exact evaluation_evaluateFresh callee read (Event.Clean.calm rfl) rfl rfl

private theorem evaluation_follow : script.Evaluation state i (script.follow state i previous current) := by
  have value : current.isValue = true := Token.isValue_of_isName (isName_of_isCallee callee read)
  unfold follow
  split
  · exact evaluation_combine callee read _ previous
  split
  · rw [checkGrammar_eq_enterValue previous value]
    exact evaluation_enterValue callee read
  · rename_i target _
    simp only [continues_assign_of_isCallee callee, Bool.false_eq_true, if_false]
    exact evaluation_assign callee read target

end

/-- A token that is no callee is not found to be in an argument list. -/
theorem calm_step_of_single (read : script.tokens[i]? = some current) (single : script.isCallee i = false)
    (state : State) : Event.Calm (script.step state i).events := by
  by_cases notEquals : ∀ previous, script.before? i 1 = some previous → previous.kind ≠ .equals
  · exact (oneOf_step read single state notEquals).calm fun _ calm => calm
  · push Not at notEquals
    obtain ⟨equals, before, kind⟩ := notEquals
    obtain ⟨aim, rest, events, aimed, sourced⟩ := events_step_behind_equals read single state before kind
    rw [events]
    refine Event.calm_append.mpr ⟨aimed.calm ?_, sourced.calm ?_⟩
    · rintro problem ⟨_, _, wrong⟩
      exact Problem.not_isMalformed_of_target wrong
    · rintro problem (wrong | ⟨_, _, wrong⟩)
      · exact Problem.not_isMalformed_of_grammar wrong
      · exact Problem.not_isMalformed_of_source wrong

/-- What a step does about calls. -/
theorem evaluation_step (script : Script) (state : State) (i : Nat) :
    script.Evaluation state i (script.step state i) := by
  by_cases passes : state.resume ≤ i ∧ i < script.tokens.length
  · have read := List.getElem?_eq_getElem passes.2
    cases callee : script.isCallee i with
    | false =>
      cases script.calls_step state i with
      | none _ evaluated resume => exact .none (calm_step_of_single read callee state) evaluated resume
      | call _ _ _ other =>
        rw [callee] at other
        cases other
    | true =>
      cases before : script.before? i 1 with
      | some previous =>
        rw [step_eq_follow passes.1 before read]
        exact evaluation_follow callee read
      | none =>
        rw [step, if_neg (Nat.not_lt.mpr passes.1), read, before]
        apply Evaluation.of_state ((state.oneOf_begin _).calm fun _ calm => calm)
        unfold State.begin
        split <;> rfl
  · rw [step_eq_idle passes]
    exact .of_state (Event.Clean.calm rfl) rfl

/-! ### The end of the statement -/

private theorem takeWhile_boundary (p : Token → Bool) (ts : List Token) :
    (∀ k t, k < (ts.takeWhile p).length → ts[k]? = some t → p t = true) ∧
      ∀ t, ts[(ts.takeWhile p).length]? = some t → p t = false := by
  induction ts with
  | nil => simp
  | cons u rest ih =>
    cases goesOn : p u with
    | false => simp [goesOn]
    | true =>
      rw [List.takeWhile_cons_of_pos goesOn, List.length_cons]
      refine ⟨?_, fun t found => ih.2 t (by simpa using found)⟩
      intro k t before found
      cases k with
      | zero =>
        obtain rfl : u = t := by simpa using found
        exact goesOn
      | succ k => exact ih.1 k t (by omega) (by simpa using found)

/-- The statement of position `i` ends at `e`, with the token there or with the script. -/
structure StatementEnds (script : Script) (i e : Nat) : Prop where
  same : script.SameStatement i e
  ends : ∀ t, script.tokens[e]? = some t → t.kind.endsStatement = true

private theorem SameStatement.ends {j : Nat} (same : script.SameStatement i j) :
    script.StatementEnds i (statementEnd j (script.tokens.drop j)) := by
  obtain ⟨goesOn, ends⟩ := takeWhile_boundary (fun t => !t.kind.endsStatement) (script.tokens.drop j)
  refine ⟨⟨Nat.le_trans same.le (le_statementEnd ..), ?_⟩, ?_⟩
  · intro k t behind before read
    rcases Nat.lt_or_ge k j with near | far
    · exact same.inside k t behind near read
    · have found : (script.tokens.drop j)[k - j]? = some t := by
        rw [List.getElem?_drop, Nat.add_sub_cancel' far, read]
      simpa using goesOn (k - j) t (by unfold statementEnd at before; omega) found
  · intro t read
    rw [statementEnd, ← List.getElem?_drop] at read
    simpa using ends t read

section

variable (read : script.tokens[i]? = some t) (ends : t.kind.endsStatement = true)
include ends

private theorem checkGrammar_state_of_endsStatement (state : State) (previous : Token) :
    (script.checkGrammar state i previous t).state = state := by
  unfold checkGrammar
  dsimp only
  split
  case h_1 | h_2 => split <;> rfl
  case h_3 =>
    unfold State.endStatement
    repeat' split
    all_goals rfl
  all_goals
    rename_i kind
    simp [kind, Kind.endsStatement, Kind.isScope] at ends

include read

/-- At the end of a statement something may be reported, and nothing is changed. -/
theorem step_state_of_endsStatement (state : State) : (script.step state i).state = state := by
  have notValue : ¬ t.isValue = true := by
    intro value
    rw [Token.not_endsStatement_of_isValue value] at ends
    cases ends
  have single := not_isCallee_of_not_isValue read notValue
  have notMisplaced : ¬ t.kind.isMisplacedSource = true := by
    cases kind : t.kind <;> simp [kind, Kind.endsStatement, Kind.isScope] at ends <;> decide
  unfold step
  split
  · rfl
  rw [read]
  dsimp only
  split
  · unfold State.begin
    split <;> rfl
  · rename_i previous _
    unfold follow
    split
    · simp only [combine, operand_of_not_isValue read notValue, State.notingOperand, useOperand]
      split <;> rfl
    split
    · exact checkGrammar_state_of_endsStatement ends state previous
    · simp [assign, single, notValue, notMisplaced, checkGrammar_state_of_endsStatement ends state previous]

end

/-! ### The run -/

/-- The check evaluates the call at position `i` when it comes there: it notes its callees. -/
def EvaluatesAt (script : Script) (i : Nat) : Prop :=
  (script.stateAt (i + 1)).evaluated ≠ (script.stateAt i).evaluated

/-- What is known when the call at position `i` has been given up at `j`, in the list of this callee. -/
structure GaveUpAt (script : Script) (i : Nat) (t : Token) (before : List Event) (callee : Site) (j : Nat)
    (problem : Problem) : Prop where
  read : script.tokens[i]? = some t
  visited : (script.stateAt i).resume ≤ i
  events : (script.progressAt i).events = before ++ (script.evaluate (script.stateAt (i + 1)).table i t).events
  quiet : Event.Calm before
  abandons : script.Abandons i (script.evaluate (script.stateAt (i + 1)).table i t) callee j problem
  resume : (script.stateAt (i + 1)).resume = statementEnd j (script.tokens.drop j)

private theorem visited_of_evaluatesAt (evaluates : script.EvaluatesAt i) :
    (script.stateAt i).resume ≤ i ∧ i < script.tokens.length := by
  by_contra skipped
  apply evaluates
  rw [stateAt_succ, progressAt, step_eq_idle skipped]
  rfl

/-- A call that is no call of the grammar is given up. -/
theorem exists_gaveUpAt (evaluates : script.EvaluatesAt i) (malformed : ¬ ∃ e, Derives script.tokens .call i e) :
    ∃ t before callee j problem, script.GaveUpAt i t before callee j problem := by
  have visited := (visited_of_evaluatesAt evaluates).1
  unfold EvaluatesAt at evaluates
  rw [stateAt_succ] at evaluates
  cases script.evaluation_step (script.stateAt i) i with
  | none _ same => exact absurd same evaluates
  | @call t table before behind read callee events quiet _ _ resume kept =>
    have gaveUp := (close_evaluate_eq_none_iff table t callee).mpr malformed
    obtain ⟨rfl, same⟩ := kept gaveUp
    rw [List.append_nil] at events
    rw [step_stateAt] at same resume
    subst same
    cases reading_evaluate callee read (script.stateAt (i + 1)).table with
    | closed close =>
      rw [gaveUp] at close
      cases close
    | @abandoned site j problem abandons =>
      refine ⟨t, before, site, j, problem, read, visited, events, quiet, abandons, ?_⟩
      have later := abandons.inside.ends.same.le
      rw [resume, abandons.resume]
      omega

private theorem resume_le_stateAt_succ (script : Script) (i : Nat) :
    (script.stateAt i).resume ≤ (script.stateAt (i + 1)).resume := by
  rw [stateAt_succ, progressAt]
  cases script.calls_step (script.stateAt i) i with
  | none _ _ same => exact Nat.le_of_eq same.symm
  | call _ _ _ _ _ _ _ resume => rw [resume]; exact Nat.le_max_left ..

private theorem resume_stateAt_mono {k n : Nat} (le : k ≤ n) :
    (script.stateAt k).resume ≤ (script.stateAt n).resume := by
  induction le with
  | refl => exact Nat.le_refl _
  | step _ ih => exact Nat.le_trans ih (script.resume_le_stateAt_succ _)

/-- The state stays as it is until the check goes on. -/
theorem stateAt_of_lt_resume {n k : Nat} (behind : n ≤ k) (before : k ≤ (script.stateAt n).resume) :
    script.stateAt k = script.stateAt n := by
  induction behind with
  | refl => rfl
  | @step k behind ih =>
    have same := ih (by omega)
    rw [stateAt_succ, progressAt, same, step_eq_idle]
    · rfl
    · rintro ⟨passed, _⟩
      omega

private theorem progressAt_of_lt_resume {n k : Nat} (behind : n ≤ k) (before : k < (script.stateAt n).resume) :
    script.progressAt k = (script.stateAt n).idle := by
  rw [progressAt, stateAt_of_lt_resume behind (Nat.le_of_lt before), step_eq_idle]
  rintro ⟨passed, _⟩
  omega

/-- Where a statement ends, or the script, the check changes nothing and calls nothing. -/
theorem step_of_ends {e : Nat} (ends : ∀ t, script.tokens[e]? = some t → t.kind.endsStatement = true)
    (state : State) : (script.step state e).state = state ∧ (script.step state e).invocations = [] := by
  cases read : script.tokens[e]? with
  | none =>
    rw [step_eq_idle fun passes => Nat.not_lt.mpr (List.getElem?_eq_none_iff.mp read) passes.2]
    exact ⟨rfl, rfl⟩
  | some t =>
    refine ⟨step_state_of_endsStatement read (ends t read) state, ?_⟩
    cases script.calls_step state e with
    | none silent => exact silent
    | call _ _ _ callee =>
      have name := isName_of_isCallee callee read
      simp [Token.not_isName_of_endsStatement (ends t read)] at name

/-! ### One report -/

/-- What is found wrong with argument lists is found at the positions from `i` on before `e`. -/
def concerns (i e : Nat) (finding : Finding) : Bool :=
  finding.problem.isMalformed && decide (i ≤ finding.site.position ∧ finding.site.position < e)

private theorem filter_concerns_of_calm {events : List Event} (calm : Event.Calm events) (i e : Nat) :
    (events.filterMap Event.finding?).filter (concerns i e) = [] := by
  apply List.filter_eq_nil_iff.mpr
  intro finding member
  simp [concerns, calm finding member]

/-- An argument list that cannot be read is found before the position where the check goes on. -/
theorem position_lt_resume {k : Nat} {finding : Finding} (found : finding ∈ (script.progressAt k).findings)
    (malformed : finding.problem.isMalformed = true) :
    finding.site.position < (script.stateAt (k + 1)).resume := by
  have notCalm {events : List Event} (calm : Event.Calm events) : finding ∉ events.filterMap Event.finding? := by
    intro member
    rw [calm finding member] at malformed
    cases malformed
  rw [Progress.findings] at found
  rw [stateAt_succ]
  cases script.evaluation_step (script.stateAt k) k with
  | none calm => exact absurd found (notCalm calm)
  | @call t table before behind read callee events quiet rest _ resume =>
    rw [progressAt, events, List.filterMap_append, List.filterMap_append, List.mem_append, List.mem_append] at found
    rw [progressAt, resume]
    have member := (found.resolve_right (notCalm rest)).resolve_left (notCalm quiet)
    cases reading_evaluate callee read table with
    | closed _ calm => exact absurd member (notCalm calm)
    | abandoned abandons =>
      obtain ⟨front, calm, last⟩ := abandons.last
      rw [last, List.filterMap_append, List.mem_append] at member
      obtain rfl : finding = _ := by simpa [Event.finding?] using member.resolve_left (notCalm calm)
      exact Nat.lt_of_lt_of_le abandons.position_lt (Nat.le_max_right ..)

/-- A list of lists of which one has elements. -/
private theorem flatMap_range_eq {α : Type} {f : Nat → List α} {n : Nat} (inside : i < n)
    (others : ∀ k, k ≠ i → f k = []) : (List.range n).flatMap f = f i := by
  induction n with
  | zero => exact absurd inside (Nat.not_lt_zero i)
  | succ n ih =>
    rw [List.range_succ, List.flatMap_append, List.flatMap_singleton]
    rcases Nat.lt_or_ge i n with earlier | last
    · rw [ih earlier, others n (by omega), List.append_nil]
    · obtain rfl : i = n := by omega
      have none : (List.range i).flatMap f = [] :=
        List.flatMap_eq_nil_iff.mpr fun k before => others k (Nat.ne_of_lt (List.mem_range.mp before))
      rw [none, List.nil_append]

/-- The argument list that a call has been given up for is reported once, whatever else is found wrong in the run. -/
theorem GaveUpAt.once {before : List Event} {callee : Site} {j : Nat} {problem : Problem}
    (gaveUp : script.GaveUpAt i t before callee j problem) :
    script.run.findings.filter (concerns i (statementEnd j (script.tokens.drop j))) = [⟨callee, problem⟩] := by
  obtain ⟨front, calm, last⟩ := gaveUp.abandons.last
  have inside : i < script.size := (List.getElem?_eq_some_iff.mp gaveUp.read).1
  have here : concerns i (statementEnd j (script.tokens.drop j)) ⟨callee, problem⟩ = true := by
    have before := gaveUp.abandons.position_lt
    rw [gaveUp.abandons.resume] at before
    simp [concerns, gaveUp.abandons.breaks.isMalformed, gaveUp.abandons.nested.le, before]
  have there : (script.progressAt i).findings.filter (concerns i (statementEnd j (script.tokens.drop j))) =
      [⟨callee, problem⟩] := by
    rw [Progress.findings, gaveUp.events, last, List.filterMap_append, List.filterMap_append, List.filter_append,
      List.filter_append, filter_concerns_of_calm gaveUp.quiet, filter_concerns_of_calm calm]
    simp [Event.finding?, here]
  rw [findings_run, List.filter_flatMap, flatMap_range_eq inside, there]
  intro k other
  apply List.filter_eq_nil_iff.mpr
  intro finding found concerned
  simp only [concerns, Bool.and_eq_true, decide_eq_true_eq] at concerned
  obtain ⟨malformed, behind, before⟩ := concerned
  rcases Nat.lt_or_gt_of_ne other with earlier | later
  · -- What an earlier position reports lies before the position where the check goes on from there.
    have limit := position_lt_resume found malformed
    have reached : (script.stateAt (k + 1)).resume ≤ (script.stateAt i).resume := resume_stateAt_mono earlier
    have visited := gaveUp.visited
    omega
  · rcases Nat.lt_or_ge k (statementEnd j (script.tokens.drop j)) with skipped | behindEnd
    · rw [progressAt_of_lt_resume later (by rwa [gaveUp.resume])] at found
      cases found
    · have located := (script.located_step _ k finding found).same.le
      omega

/-- What comes of the call at position `i`, which has been given up at `j` in the list of `callee`, up to the end of its
statement at `e`. -/
structure Abandonment (script : Script) (i : Nat) (callee : Site) (j e : Nat) (problem : Problem) : Prop where
  read : script.tokens[callee.position]? = some callee.token
  innermost : script.Innermost i callee.position j
  breaks : Breaks script.tokens callee j problem
  behind : i < j ∧ j ≤ e
  ends : script.StatementEnds i e
  /-- The call is evaluated last, with the variables as they are from then on, and the report of its list is the last
  thing that happens in it. -/
  last : ∃ t before front, script.tokens[i]? = some t ∧
    (script.progressAt i).events = before ++ (script.evaluate (script.stateAt (i + 1)).table i t).events ∧
    (script.evaluate (script.stateAt (i + 1)).table i t).events = front ++ [.reported ⟨callee, problem⟩]
  /-- Up to the end of the statement nothing happens at all. -/
  skipped : ∀ k, i < k → k < e → script.progressAt k = (script.stateAt (i + 1)).idle
  /-- There nothing is called and nothing is changed. -/
  kept : ∀ k, i < k → k ≤ e → (script.progressAt k).state = script.stateAt (i + 1) ∧
    (script.progressAt k).invocations = []
  /-- No other report of the run is about an argument list of the statement from position `i` on. -/
  once : script.run.findings.filter (concerns i e) = [⟨callee, problem⟩]

/-- A call that the check evaluates and that is no call of the grammar is given up in the list of the innermost
malformed call. From then on up to the end of the statement, which is included, no function is run, no variable is
declared or changed, and no other argument list is reported. -/
theorem abandoned_call (evaluates : script.EvaluatesAt i) (malformed : ¬ ∃ e, Derives script.tokens .call i e) :
    ∃ callee j e problem, script.Abandonment i callee j e problem := by
  obtain ⟨t, before, callee, j, problem, gaveUp⟩ := exists_gaveUpAt evaluates malformed
  obtain ⟨e, isEnd⟩ : ∃ e, statementEnd j (script.tokens.drop j) = e := ⟨_, rfl⟩
  have ends : script.StatementEnds i e := isEnd ▸ gaveUp.abandons.inside.ends
  have resume : (script.stateAt (i + 1)).resume = e := gaveUp.resume.trans isEnd
  have behind : i < j := Nat.lt_of_le_of_lt gaveUp.abandons.nested.le gaveUp.abandons.breaks.lt
  have skipped (k : Nat) (later : i < k) (before : k < e) : script.progressAt k = (script.stateAt (i + 1)).idle :=
    progressAt_of_lt_resume later (by rwa [resume])
  refine ⟨callee, j, e, problem, gaveUp.abandons.read, gaveUp.abandons.innermost, gaveUp.abandons.breaks,
    ⟨behind, isEnd ▸ le_statementEnd ..⟩, ends, ?last, skipped, ?kept, isEnd ▸ gaveUp.once⟩
  case last =>
    obtain ⟨front, _, last⟩ := gaveUp.abandons.last
    exact ⟨t, before, front, gaveUp.read, gaveUp.events, last⟩
  case kept =>
    intro k later within
    rcases Nat.eq_or_lt_of_le within with rfl | inside
    · have same : script.stateAt k = script.stateAt (i + 1) := stateAt_of_lt_resume later (Nat.le_of_eq resume.symm)
      have unchanged := step_of_ends ends.ends (script.stateAt (i + 1))
      rwa [progressAt, same]
    · rw [skipped k later inside]
      exact ⟨rfl, rfl⟩

/-- The inner one of two calls is malformed. It is reported for both of them, and the call behind it is not run. -/
theorem abandoned_inner_call :
    let script : Script := ⟨tokenize "\x7b toString(size(1 2), messageBox(\"a\", \"b\")); \x7d", Builtin.registry⟩
    script.run.findings.map Finding.problem = [.expectedSeparator "size" "2"] ∧ script.report.operations = [] ∧
      script.EvaluatesAt 1 ∧ ∃ callee j e problem, script.Abandonment 1 callee j e problem := by
  intro script
  have callee : script.isCallee 1 = true := by decide +kernel
  have evaluates : script.EvaluatesAt 1 := by
    unfold EvaluatesAt
    decide +kernel
  have malformed : ¬ ∃ e, Derives script.tokens .call 1 e :=
    (close_evaluate_eq_none_iff {} ⟨.identifier, "toString", 1, ⟨1, 1⟩, ⟨2, 10⟩⟩ callee).mp (by decide +kernel)
  exact ⟨by decide +kernel, by decide +kernel, evaluates, abandoned_call evaluates malformed⟩

end Script

end ScriptCheck
