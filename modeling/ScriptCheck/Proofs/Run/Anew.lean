import ScriptCheck.Proofs.Part.Statements

/-! # A check without the chain

A chain of operators remembers the variable that it changes. A check that remembers nothing of the kind, and looks
back for the nearest variable at each operator (`Script.runAnew`), makes the same report: a chain that is gone on
with remembers what the look back finds (`Script.chain_dispensable`).
-/

namespace ScriptCheck

namespace Script

/-- The rule for the token `current` at position `i`, after the operator `op`, that looks back for its target. -/
def combineAnew (script : Script) (state : State) (i : Nat) (operator : Operator) (op current : Token) :
    Progress :=
  if !script.hasLeft i then state.idle
  else
    let read := script.operand state.table i op current
    let state := state.notingOperand read
    match read.operand, script.nearest? 0 i with
    | some operand, some target =>
      (script.foldAt state i target operator op current operand.value).after read.events
    | _, _ => ⟨state, read.events⟩

/-- The rule for the token `current` at position `i`, after the token `previous`. Only operators have a target to
look back for. -/
def followAnew (script : Script) (state : State) (i : Nat) (previous current : Token) : Progress :=
  match previous.kind.operator? with
  | some operator => script.combineAnew state i operator previous current
  | none => script.follow state i previous current

def stepAnew (script : Script) (state : State) (i : Nat) : Progress :=
  if i < state.resume then state.idle
  else match script.tokens[i]? with
    | none => state.idle
    | some current => match script.before? i 1 with
      | none => state.begin ⟨i, current⟩
      | some previous => script.followAnew state i previous current

def stepsAnew (script : Script) (state : State) : List Nat → Progress
  | [] => state.idle
  | i :: rest =>
    let progress := script.stepAnew state i
    (script.stepsAnew progress.state rest).after progress.events

/-- Checks a script from its first token to its last, without a chain. -/
def runAnew (script : Script) : Progress :=
  script.stepsAnew {} (List.range script.size)

variable {script : Script} {bare state : State} {i : Nat}

/-! ### The chain of a check that does not use it -/

private theorem combineAnew_chain (script : Script) (state : State) (i : Nat) (operator : Operator)
    (op current : Token) :
    (script.combineAnew state i operator op current).state.chain = state.chain := by
  have noted := (state.notes_notingOperand (script.operand state.table i op current)).chain
  unfold combineAnew
  split
  · rfl
  · dsimp only
    split
    · rw [Progress.after_state, foldAt_state]
      exact noted
    · exact noted

private theorem followAnew_cases (script : Script) (state : State) (i : Nat) (previous current : Token) :
    script.followAnew state i previous current = script.follow state i previous current ∨
      (script.followAnew state i previous current).state.chain = state.chain := by
  unfold followAnew
  split
  · exact .inr (combineAnew_chain ..)
  · exact .inl rfl

private theorem stepAnew_cases (script : Script) (state : State) (i : Nat) :
    script.stepAnew state i = script.step state i ∨ (script.stepAnew state i).state.chain = state.chain := by
  unfold stepAnew step
  split
  · exact .inl rfl
  · cases script.tokens[i]? with
    | none => exact .inl rfl
    | some current =>
      cases script.before? i 1 with
      | none => exact .inl rfl
      | some previous => exact script.followAnew_cases state i previous current

private theorem ChainAgrees.stepAnew (agrees : script.ChainAgrees state) (i : Nat) :
    script.ChainAgrees (script.stepAnew state i).state := by
  rcases script.stepAnew_cases state i with usual | kept
  · rw [usual]
    exact agrees.step i
  · intro chain found
    rw [kept] at found
    exact agrees chain found

/-! ### The same with a chain -/

private theorem within_nil (script : Script) : script.within [] [] = script := by
  simp [within]

private theorem closed_nil (script : Script) : script.Closed [] [] := ⟨.inl rfl, .inl rfl⟩

section

variable (inside : i < script.tokens.length) (same : State.Shifted 0 bare state)
  (agrees : script.ChainAgrees state)
include inside same agrees

/-- An operator does the same with a chain that agrees with the look back. -/
theorem combineAnew_same {op : Token} {operator : Operator} (before : script.before? i 1 = some op)
    (isOperator : op.kind.operator? = some operator) (current : Token) :
    Progress.Shifted 0 (script.combineAnew bare i operator op current)
      (script.combine state i operator op current) := by
  have operates : op.kind.operator?.isSome := by
    rw [isOperator]
    rfl
  obtain ⟨read, isRead⟩ : ∃ read, script.operand state.table i op current = read := ⟨_, rfl⟩
  have unshifted := operand_within script.closed_nil inside state.table op current
  simp only [within_nil, List.length_nil, Nat.zero_add, isRead] at unshifted
  have noted := same.notingOperand unshifted
  unfold combineAnew combine useOperand
  rw [same.table]
  dsimp only
  rw [isRead, foldTarget_of_notes (State.notes_notingOperand ..), agrees.foldTarget before operates]
  split
  · exact same.idle
  · cases read.operand with
    | none => exact ⟨noted, unshifted.events⟩
    | some operand =>
      cases found : script.nearest? 0 i with
      | none => exact ⟨noted, unshifted.events⟩
      | some target =>
        have aimed : target < script.tokens.length := Nat.lt_trans (lt_of_nearest? found) inside
        -- The states differ in their chains, which the fold does not look at.
        have next := noted.chain (bare.notingOperand read).chain
          (some ⟨operand.last, if operand.last = i && current.isName then i else target⟩)
        have folded := @foldAt_within script [] [] _ _ i next target aimed operator op current operand.value
        simp only [within_nil, List.length_nil, Nat.zero_add] at folded
        have after := folded.after read.events
        rwa [← unshifted.events] at after

variable (agreed : script.ChainAgrees bare)
include agreed

private theorem followAnew_same {previous : Token} (before : script.before? i 1 = some previous) (current : Token) :
    Progress.Shifted 0 (script.followAnew bare i previous current) (script.follow state i previous current) := by
  cases operates : previous.kind.operator? with
  | some operator =>
    have usual : script.follow state i previous current = script.combine state i operator previous current := by
      rw [follow, operates]
    have anew : script.followAnew bare i previous current = script.combineAnew bare i operator previous current := by
      rw [followAnew, operates]
    rw [usual, anew]
    exact combineAnew_same inside same agrees before operates current
  | none =>
    have anew : script.followAnew bare i previous current = script.follow bare i previous current := by
      rw [followAnew, operates]
    rw [anew]
    have unshifted := @follow_within script [] [] bare state i script.closed_nil inside same
      (by rwa [within_nil]) agrees (.inl rfl) previous before current
    simpa only [within_nil, List.length_nil, Nat.zero_add] using unshifted

/-- At each position the same happens with and without a chain. -/
theorem stepAnew_same : Progress.Shifted 0 (script.stepAnew bare i) (script.step state i) := by
  have resume : bare.resume = state.resume := same.resume
  have read := List.getElem?_eq_getElem inside
  unfold stepAnew step
  rw [resume, read]
  dsimp only
  split
  · exact same.idle
  · cases before : script.before? i 1 with
    | some previous => exact followAnew_same inside same agrees agreed before _
    | none =>
      dsimp only
      unfold State.begin
      split
      · exact same.idle
      · simpa [Site.shift] using same.report ⟨i, _⟩ _

end

private theorem stepsAnew_same {positions : List Nat} (inside : ∀ i ∈ positions, i < script.tokens.length)
    (same : State.Shifted 0 bare state) (agrees : script.ChainAgrees state) (agreed : script.ChainAgrees bare) :
    Progress.Shifted 0 (script.stepsAnew bare positions) (script.steps state positions) := by
  induction positions generalizing bare state with
  | nil => exact same.idle
  | cons i rest ih =>
    have now := stepAnew_same (inside i (List.mem_cons_self ..)) same agrees agreed
    have others := ih (fun j later => inside j (List.mem_cons_of_mem i later)) now.state (agrees.step i)
      (agreed.stepAnew i)
    rw [stepsAnew, steps, now.events]
    exact others.after _

private theorem runAnew_same (script : Script) : Progress.Shifted 0 script.runAnew script.run :=
  stepsAnew_same (fun _ member => List.mem_range.mp member) ⟨rfl, by simp, by simp, rfl⟩
    (chainAgrees_start script {}) (chainAgrees_start script {})

/-- Where an operator goes on with the chain that a run has come to, the look back finds the target of the chain.
A check without a chain, that looks back at each operator, makes the same report. -/
theorem chain_dispensable (script : Script) :
    (∀ n i op chain, script.before? i 1 = some op → op.kind.operator?.isSome →
        (script.stateAt n).chain = some chain → chain.last + 2 = i →
        script.foldTarget (script.stateAt n) i = some chain.target ∧ script.nearest? 0 i = some chain.target) ∧
      script.runAnew.report = script.report := by
  refine ⟨?_, (script.runAnew_same).report⟩
  intro n i op chain before operator found goesOn
  have aim : script.foldTarget (script.stateAt n) i = some chain.target := by
    rw [foldTarget, found]
    exact if_pos goesOn
  have scanned := (script.chainAgrees_stateAt n).foldTarget before operator
  exact ⟨aim, scanned.symm.trans aim⟩

/-- The second operator goes on with a chain whose target is the variable on the left. -/
theorem chain_dispensable_sum :
    let script : Script := ⟨tokenize "int n = 1 + 2 + 3;", Builtin.registry⟩
    (script.stateAt 7).chain = some ⟨5, 1⟩ ∧ script.foldTarget (script.stateAt 7) 7 = some 1 ∧
      script.nearest? 0 7 = some 1 ∧ script.runAnew.report = script.report := by
  intro script
  obtain ⟨agrees, anew⟩ := script.chain_dispensable
  have chain : (script.stateAt 7).chain = some ⟨5, 1⟩ := by decide +kernel
  have before : script.before? 7 1 = some ⟨.plus, "+", 1, ⟨0, 0⟩, ⟨14, 15⟩⟩ := by decide +kernel
  obtain ⟨aim, scanned⟩ := agrees 7 7 _ _ before rfl chain rfl
  exact ⟨chain, aim, scanned, anew⟩

end Script

end ScriptCheck
