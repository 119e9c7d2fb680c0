import ScriptCheck.Native.Builtin
import ScriptCheck.Proofs.Call.Ran
import ScriptCheck.Proofs.Run.Clean
import ScriptCheck.Proofs.Run.Calls

/-! # Runs that find nothing wrong

A run without diagnostics skips no token. Each callee of such a script is evaluated where the check comes to
it or as a part of a larger call, and its function is run. The one exception is a callee behind a sign, an
operator with no operand before it: the check passes over such a callee without a word
(`Script.ran_iff_not_followsSign`).
-/

namespace ScriptCheck

structure State.NotesNoCall (before after : State) : Prop where
  evaluated : after.evaluated = before.evaluated
  resume : after.resume = before.resume

namespace Script

variable {script : Script} {state : State} {progress : Progress} {i p : Nat} {t : Token}

/-! ### A callee is evaluated -/

/-- A rule has evaluated the call of the callee `t` at position `i`, with the variables as they were before
or as they are behind it. -/
structure Evaluates (script : Script) (state : State) (table : Table) (i : Nat) (t : Token)
    (progress : Progress) : Prop where
  reads : table = state.table ∨ table = progress.state.table
  within : (script.evaluate table i t).events ⊆ progress.events
  evaluated : progress.state.evaluated = state.evaluated ++ (script.evaluate table i t).callees
  resume : progress.state.resume = max state.resume (script.evaluate table i t).resume

/-- An operator with no operand before it stands directly before position `p`. -/
def followsSign (script : Script) (p : Nat) : Bool :=
  ((script.before? p 1).any fun op => op.kind.operator?.isSome) && !script.hasLeft p

theorem events_subset_useOperand (script : Script) (state : State) (i : Nat) (operator : Operator)
    (op current : Token) (read : OperandResult) :
    read.events ⊆ (script.useOperand state i operator op current read).events := by
  unfold useOperand
  split
  · exact List.subset_append_left ..
  · exact List.Subset.refl _

theorem evaluates_combine {operator : Operator} {op : Token} (left : script.hasLeft i = true)
    (callee : script.isCallee i = true) :
    script.Evaluates state state.table i t (script.combine state i operator op t) := by
  have call : (script.operand state.table i op t).call = some (script.evaluate state.table i t) := by
    rcases script.call_operand state.table i op t with ⟨single, _, _⟩ | ⟨_, call, _⟩
    · rw [callee] at single
      cases single
    · exact call
  have within : (script.evaluate state.table i t).events ⊆ (script.operand state.table i op t).events := by
    simp only [operand, callee, if_true]
    split
    · exact List.Subset.refl _
    · exact List.subset_append_left ..
    · exact List.Subset.refl _
  simp only [combine, left, Bool.not_true, Bool.false_eq_true, if_false]
  refine ⟨.inl rfl, List.Subset.trans within (events_subset_useOperand ..), ?_, ?_⟩
  · rw [useOperand_state, State.notingOperand, call]
    rfl
  · rw [useOperand_state, State.notingOperand, call]
    rfl

theorem evaluates_assign {target : Token} (callee : script.isCallee i = true) :
    script.Evaluates state state.table i t (script.assign state i target t).progress := by
  have within : ∀ {front calls back : List Event}, calls ⊆ front ++ calls ++ back := by
    intro front calls back event member
    exact List.mem_append_left _ (List.mem_append_right _ member)
  simp only [assign, callee, if_true]
  split
  · refine ⟨.inl rfl, within, ?_, ?_⟩
    · rw [Progress.after_state, State.storeOutcome_state]
      rfl
    · rw [Progress.after_state, State.storeOutcome_state]
      rfl
  · exact ⟨.inl rfl, within, rfl, rfl⟩

/-- Where no other rule applies, a callee is evaluated unless that has been done. -/
theorem evaluates_enterValue {previous : Token} (callee : script.isCallee i = true)
    (clean : Event.Clean (script.enterValue state i previous t).events) :
    (i ∈ state.evaluated ∧ state.NotesNoCall (script.enterValue state i previous t).state) ∨
      ∃ table, script.Evaluates state table i t (script.enterValue state i previous t) := by
  have later : ∀ declared : Progress, state.NotesNoCall declared.state →
      let progress := script.evaluateFresh i t declared
      (i ∈ state.evaluated ∧ state.NotesNoCall progress.state) ∨
        ∃ table, script.Evaluates state table i t progress := by
    intro declared none
    dsimp only
    rw [evaluateFresh, none.evaluated, callee]
    by_cases noted : i ∈ state.evaluated
    · left
      simpa [noted] using none
    · right
      refine ⟨declared.state.table, .inr ?_, ?_, ?_, ?_⟩ <;>
        simp [noted, State.noting, none.evaluated, none.resume]
  rw [enterValue_eq] at clean ⊢
  split at clean
  · exact (Event.not_clean_reported _ _ clean).elim
  · rename_i notValue
    rw [if_neg notValue]
    cases previous.kind.declares? with
    | some type =>
      have kept := state.declare_state ⟨i, t⟩ type
      exact later _ ⟨by rw [kept], by rw [kept]⟩
    | none => exact later _ ⟨rfl, rfl⟩

/-- A visited callee that stands behind no sign is evaluated unless that has been done, or something is
found wrong. -/
theorem evaluates_step (ahead : state.resume ≤ i) {previous : Token}
    (before : script.before? i 1 = some previous) (read : script.tokens[i]? = some t)
    (callee : script.isCallee i = true) (unsigned : script.followsSign i = false)
    (clean : Event.Clean (script.step state i).events) :
    (i ∈ state.evaluated ∧ state.NotesNoCall (script.step state i).state) ∨
      ∃ table, script.Evaluates state table i t (script.step state i) := by
  rw [step_eq_follow ahead before read] at clean ⊢
  have value : t.isValue = true := Token.isValue_of_isName (isName_of_isCallee callee read)
  unfold follow at clean ⊢
  split
  · rename_i operator isOperator
    have left : script.hasLeft i = true := by simpa [followsSign, before, isOperator] using unsigned
    exact .inr ⟨_, evaluates_combine left callee⟩
  · rename_i notOperator
    simp only [notOperator] at clean
    split
    · rename_i noTarget
      simp only [noTarget] at clean
      rw [checkGrammar_eq_enterValue previous value] at clean ⊢
      exact evaluates_enterValue callee clean
    · rename_i target _
      have stops : (script.assign state i target t).continues = false :=
        continues_assign_of_isCallee callee
      simp only [stops, Bool.false_eq_true, if_false]
      exact .inr ⟨_, evaluates_assign callee⟩

private theorem step_zero_state (script : Script) (state : State) : (script.step state 0).state = state := by
  unfold step
  split
  · rfl
  · split
    · rfl
    · rename_i current _
      change (state.begin ⟨0, current⟩).state = state
      unfold State.begin
      split <;> rfl

/-- Behind a sign nothing happens. -/
theorem step_of_followsSign (signed : script.followsSign i = true) :
    script.step state i = state.idle := by
  simp only [followsSign, Bool.and_eq_true, Option.any_eq_true, Option.isSome_iff_exists,
    Bool.not_eq_true'] at signed
  obtain ⟨⟨op, before, operator, isOperator⟩, alone⟩ := signed
  unfold step
  split
  · rfl
  · split
    · rfl
    · simp only [before, follow, isOperator, combine, alone, Bool.not_false, if_true]

/-! ### A run without diagnostics -/

/-- A script without diagnostics has no finding at any position. -/
theorem clean_progressAt (clean : script.report.diagnostics = []) (i : Nat) :
    Event.Clean (script.progressAt i).events := by
  have none : script.run.findings = [] := List.map_eq_nil_iff.mp clean
  by_cases inside : i < script.tokens.length
  · rw [Progress.findings, run_events, List.filterMap_flatMap, List.flatMap_eq_nil_iff] at none
    exact none i (List.mem_range.mpr inside)
  · rw [progressAt, step_eq_idle fun visited => inside visited.2]
    rfl

/-- A call that is evaluated where nothing is found wrong has no finding either. -/
theorem Evaluates.clean {table : Table} (evaluates : script.Evaluates state table i t progress)
    (clean : Event.Clean progress.events) : Event.Clean (script.evaluate table i t).events := by
  exact Event.Clean.of_subset clean evaluates.within

/-- The callee at `c` has been met by the evaluation of the callee at a position before `n`. -/
def Met (script : Script) (n c : Nat) : Prop :=
  ∃ i < n, ∃ t table, script.tokens[i]? = some t ∧ script.isCallee i = true ∧
    script.Evaluates (script.stateAt i) table i t (script.progressAt i) ∧
    c ∈ (script.evaluate table i t).callees

private theorem Met.succ {n c : Nat} (met : script.Met n c) : script.Met (n + 1) c := by
  obtain ⟨i, before, rest⟩ := met
  exact ⟨i, Nat.lt_succ_of_lt before, rest⟩

/-- What is known before position `n` of a run without diagnostics: nothing is skipped, and the callees
noted so far have been met. -/
structure Faultless (script : Script) (n : Nat) : Prop where
  resume : (script.stateAt n).resume = 0
  met : ∀ c ∈ (script.stateAt n).evaluated, script.Met n c

/-- No position of such a run is skipped. -/
theorem Faultless.visits {n : Nat} (faultless : script.Faultless n) : (script.stateAt n).resume ≤ n := by
  rw [faultless.resume]
  exact Nat.zero_le n

/-- The token before a position behind the first one. -/
theorem exists_before {script : Script} {i : Nat} (inside : i + 1 < script.tokens.length) :
    ∃ previous, script.before? (i + 1) 1 = some previous :=
  ⟨script.tokens[i], by simp [before?]⟩

private theorem Faultless.of_silent {n : Nat} (faultless : script.Faultless n)
    (none : (script.stateAt n).NotesNoCall (script.progressAt n).state) :
    script.Faultless (n + 1) := by
  constructor
  · rw [stateAt_succ, none.resume]
    exact faultless.resume
  · intro c member
    rw [stateAt_succ, none.evaluated] at member
    exact (faultless.met c member).succ

private theorem Faultless.of_evaluates {n : Nat} {table : Table} (faultless : script.Faultless n)
    (read : script.tokens[n]? = some t) (callee : script.isCallee n = true)
    (evaluates : script.Evaluates (script.stateAt n) table n t (script.progressAt n))
    (clean : Event.Clean (script.progressAt n).events) : script.Faultless (n + 1) := by
  constructor
  · rw [stateAt_succ, evaluates.resume, faultless.resume,
      resume_evaluate_of_clean callee (evaluates.clean clean)]
    rfl
  · intro c member
    rw [stateAt_succ, evaluates.evaluated, List.mem_append] at member
    rcases member with member | member
    · exact (faultless.met c member).succ
    · exact ⟨n, Nat.lt_succ_self n, t, table, read, callee, evaluates, member⟩

/-- What a run without diagnostics does about calls at a position: nothing, or it evaluates the callee that
stands there. -/
theorem faultless_cases (clean : script.report.diagnostics = []) {n : Nat}
    (faultless : script.Faultless n) :
    (script.stateAt n).NotesNoCall (script.progressAt n).state ∨
      ∃ u table, script.tokens[n]? = some u ∧ script.isCallee n = true ∧
        script.Evaluates (script.stateAt n) table n u (script.progressAt n) := by
  cases script.calls_step (script.stateAt n) n with
  | none _ evaluated resume => exact .inl ⟨evaluated, resume⟩
  | call u _ read callee =>
    cases signed : script.followsSign n with
    | true =>
      left
      rw [progressAt, step_of_followsSign signed]
      exact ⟨rfl, rfl⟩
    | false =>
      cases n with
      | zero =>
        left
        rw [progressAt, step_zero_state]
        exact ⟨rfl, rfl⟩
      | succ n =>
        obtain ⟨previous, before⟩ := exists_before (List.getElem?_eq_some_iff.mp read).1
        rcases evaluates_step faultless.visits before read callee signed (clean_progressAt clean (n + 1))
          with ⟨_, none⟩ | ⟨table, evaluates⟩
        · exact .inl none
        · exact .inr ⟨u, table, read, callee, evaluates⟩

theorem faultless_of_clean (clean : script.report.diagnostics = []) (n : Nat) :
    script.Faultless n := by
  induction n with
  | zero => exact ⟨rfl, by simp⟩
  | succ n ih =>
    rcases faultless_cases clean ih with none | ⟨u, table, read, callee, evaluates⟩
    · exact ih.of_silent none
    · exact ih.of_evaluates read callee evaluates (clean_progressAt clean n)

/-! ### Which callees are run -/

/-- The calls that an evaluated call makes are made in the run. -/
theorem Evaluates.invocations_subset {table : Table} (read : script.tokens[i]? = some t)
    (evaluates : script.Evaluates (script.stateAt i) table i t (script.progressAt i)) :
    (script.evaluate table i t).invocations ⊆ script.run.invocations := by
  intro call made
  obtain ⟨event, happened, isCall⟩ := List.mem_filterMap.mp made
  rw [Progress.invocations, run_events]
  apply List.mem_filterMap.mpr
  refine ⟨event, List.mem_flatMap.mpr ⟨i, ?_, evaluates.within happened⟩, isCall⟩
  exact List.mem_range.mpr (List.getElem?_eq_some_iff.mp read).1

/-- In a run without diagnostics the function of a callee that has been met is run for it. -/
theorem Met.ran {n c : Nat} (clean : script.report.diagnostics = []) (met : script.Met n c) :
    ∃ u, script.tokens[c]? = some u ∧
      ∃ call ∈ script.run.invocations, call.callee = ⟨c, u⟩ ∧ call.Ran script.natives := by
  obtain ⟨i, _, t, table, read, callee, evaluates, member⟩ := met
  obtain ⟨u, found, call, made, same, ran⟩ :=
    ran_evaluate read callee (evaluates.clean (clean_progressAt clean i)) c member
  exact ⟨u, found, call, evaluates.invocations_subset read made, same, ran⟩

/-- A script without diagnostics begins with a block or a declaration. -/
theorem begins_of_clean (clean : script.report.diagnostics = []) (read : script.tokens[0]? = some t) :
    t.kind = .openScope ∨ t.isType = true := by
  apply Decidable.byContradiction
  intro other
  have reports : script.progressAt 0 = State.report {} ⟨0, t⟩ (.badStart t.text) := by
    simp [progressAt, step, read, before?, State.begin, other]
  have quiet := clean_progressAt clean 0
  rw [reports] at quiet
  exact Event.not_clean_reported _ _ quiet

private theorem pos_of_isCallee (clean : script.report.diagnostics = []) (callee : script.isCallee p = true) :
    0 < p := by
  apply Nat.pos_of_ne_zero
  rintro rfl
  obtain ⟨t, _, read, name, _⟩ := isCallee_iff.mp callee
  have kind := (Token.isName_iff.mp name).1
  rcases begins_of_clean clean read with first | first <;>
    simp [Token.isType, Kind.declares?, kind] at first

/-- In a run without diagnostics a callee behind no sign is noted when it is visited. -/
theorem mem_evaluated_succ (clean : script.report.diagnostics = [])
    (callee : script.isCallee p = true) (unsigned : script.followsSign p = false) :
    p ∈ (script.stateAt (p + 1)).evaluated := by
  obtain ⟨t, _, read, _⟩ := isCallee_iff.mp callee
  have later := pos_of_isCallee clean callee
  obtain ⟨i, rfl⟩ : ∃ i, p = i + 1 := ⟨p - 1, by omega⟩
  obtain ⟨previous, before⟩ := exists_before (List.getElem?_eq_some_iff.mp read).1
  have ahead := (faultless_of_clean clean (i + 1)).visits
  rw [stateAt_succ]
  rcases evaluates_step ahead before read callee unsigned (clean_progressAt clean (i + 1)) with
    ⟨noted, same⟩ | ⟨table, evaluates⟩
  · rw [progressAt, same.evaluated]
    exact noted
  · rw [progressAt, evaluates.evaluated]
    exact List.mem_append_right _ (List.mem_cons_self ..)

/-- A callee behind a sign is not called. -/
theorem not_followsSign_of_called {call : Invocation} (made : call ∈ script.run.invocations) :
    script.followsSign call.callee.position = false := by
  rw [invocations_run] at made
  obtain ⟨i, _, now⟩ := List.mem_flatMap.mp made
  apply Bool.eq_false_iff.mpr
  intro signed
  rcases script.calls_step (script.stateAt i) i with
    ⟨silent, _, _⟩ | ⟨u, table, _, callee, _, evaluates, _, _⟩
  · rw [progressAt, silent] at now
    cases now
  · rw [progressAt, evaluates] at now
    rcases callee_of_mem_evaluate callee now with rfl | begins
    · -- The rule at the callee itself has done nothing.
      rw [← evaluates, step_of_followsSign signed] at now
      cases now
    · obtain ⟨t, before, kind⟩ := begins
      simp only [followsSign, before, Option.any_some, Bool.and_eq_true] at signed
      rcases kind with kind | kind <;> simp [kind, Kind.operator?] at signed

/-- In a script without diagnostics, whatever stands around a callee, its function is run for it, unless the
callee stands behind a sign: an operator that has no operand before it. Such a callee is not called. -/
theorem ran_iff_not_followsSign (clean : script.report.diagnostics = [])
    (read : script.tokens[p]? = some t) (callee : script.isCallee p = true) :
    (∃ call ∈ script.run.invocations, call.callee = ⟨p, t⟩ ∧ call.Ran script.natives) ↔
      script.followsSign p = false := by
  constructor
  · rintro ⟨call, made, same, _⟩
    have unsigned := not_followsSign_of_called made
    rw [same] at unsigned
    exact unsigned
  · intro unsigned
    have met := (faultless_of_clean clean (p + 1)).met p (mem_evaluated_succ clean callee unsigned)
    obtain ⟨u, found, called⟩ := met.ran clean
    obtain rfl : t = u := by simpa [read] using found
    exact called

/-- A call in the arguments of another one is run, whose function is run behind it. -/
theorem nested_ran :
    let script : Script := ⟨tokenize "\x7b messageBox(\"a\", toString(1)); \x7d", Builtin.registry⟩
    script.isCallee 5 = true ∧ ∃ call ∈ script.run.invocations,
      call.callee = ⟨5, ⟨.identifier, "toString", 1, ⟨1, 1⟩, ⟨18, 26⟩⟩⟩ ∧ call.Ran script.natives := by
  have callee : Script.isCallee ⟨tokenize "\x7b messageBox(\"a\", toString(1)); \x7d",
    Builtin.registry⟩ 5 = true := by decide +kernel
  exact ⟨callee, (ran_iff_not_followsSign (by decide +kernel) (by decide +kernel) callee).mpr
    (by decide +kernel)⟩

/-- A call behind a sign is dropped without a word. -/
theorem dropped_behind_sign :
    ¬ ∀ (natives : Registry) (source : String) (p : Nat) (t : Token),
      (checkSource natives source).diagnostics = [] → (tokenize source)[p]? = some t →
      Script.isCallee ⟨tokenize source, natives⟩ p = true →
      ∃ call ∈ (Script.run ⟨tokenize source, natives⟩).invocations,
        call.callee = ⟨p, t⟩ ∧ call.Ran natives := by
  intro always
  obtain ⟨call, made, _⟩ := always Builtin.registry "\x7b + messageBox(\"a\", \"b\"); \x7d" 2
    ⟨.identifier, "messageBox", 1, ⟨1, 1⟩, ⟨4, 14⟩⟩ (by decide +kernel) (by decide +kernel)
    (by decide +kernel)
  have none : (Script.run ⟨tokenize "\x7b + messageBox(\"a\", \"b\"); \x7d",
    Builtin.registry⟩).invocations = [] := by decide +kernel
  rw [none] at made
  cases made

end Script

end ScriptCheck
