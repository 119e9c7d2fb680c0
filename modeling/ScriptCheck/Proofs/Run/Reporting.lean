import ScriptCheck.Proofs.Call.Outcome
import ScriptCheck.Proofs.Run.Clean
import ScriptCheck.Proofs.Run.Headings

/-! # Steps that report something

A step that finds something wrong leaves the variables that are there as they are. The rules look everything
up before they change anything, so by the time a variable is changed nothing can go wrong any more
(`Script.touches_step`). Only a declaration may come before a report: a fresh variable is added, and the call
that begins with its name is then evaluated.
-/

namespace ScriptCheck

/-- What a rule does to the variables: nothing, it adds one, or it changes one. It changes a variable only
where it finds nothing wrong. -/
inductive Touches (table : Table) (progress : Progress) : Prop
  | keeps (same : progress.state.table = table)
  | adds {name : String} {type : ValueType} {scope : Scope}
      (declared : table.declare? name type scope = some progress.state.table)
  | changes {name : String} {f : Symbol → Symbol} (names : ∀ symbol, (f symbol).name = symbol.name)
      (changed : progress.state.table = table.change name f) (clean : Event.Clean progress.events)

namespace Touches

variable {table : Table} {progress : Progress}

/-- Where nothing was found wrong before, a rule touches the variables as it does by itself. -/
theorem after {events : List Event} (touches : Touches table progress) (clean : Event.Clean events) :
    Touches table (progress.after events) := by
  cases touches with
  | keeps same => exact .keeps same
  | adds declared => exact .adds declared
  | changes names changed quiet => exact .changes names changed (Event.clean_append.mpr ⟨clean, quiet⟩)

end Touches

namespace State

variable (state : State) (site : Site)

/-- A settled destination has been found without a report. -/
theorem clean_destination {position : Nat} {target : Token} {name : String}
    (settled : (state.destination position target site).1 = some name) :
    Event.Clean (state.destination position target site).2 := by
  unfold destination at settled ⊢
  split at settled
  · cases settled
  · rename_i accepted
    rw [if_neg accepted]
    split at settled
    · rfl
    · cases settled
    · cases settled

private theorem touches_store (target : String) (value : Value) (mismatch : Problem) :
    Touches state.table (state.store site target value mismatch).progress := by
  unfold store
  split
  · exact .keeps rfl
  · split
    · exact .changes (Symbol.assign_name value) rfl rfl
    · exact .keeps rfl

private theorem touches_fold (operator : Operator) (op target : Token) (value : Value) :
    Touches state.table (state.fold site operator op target value) := by
  unfold fold
  split
  · exact .keeps rfl
  · exact .keeps rfl
  · split
    · exact .keeps rfl
    · split
      · exact .keeps rfl
      · rename_i result _
        exact .changes (Symbol.update_name result) rfl rfl

/-- A declaration keeps the variables or adds one, whatever is noted behind it. -/
theorem touches_declare (type : ValueType) {progress : Progress}
    (notes : (state.declare site type).state.Notes progress.state) : Touches state.table progress := by
  have same := notes.table
  rcases state.declare_cases site type with kept | ⟨larger, declared, grows⟩ | refused
  · exact .keeps (by rw [same, kept])
  · exact .adds (declared.trans (by rw [same, grows]))
  · exact .keeps (by rw [same, refused])

end State

namespace Script

variable {script : Script} {state : State} {table : Table} {i : Nat}

/-! ### Rule by rule -/

/-- An operand that has a value has been read without a report. -/
theorem clean_operand {op current : Token} {read : Operand}
    (value : (script.operand table i op current).operand = some read) :
    Event.Clean (script.operand table i op current).events := by
  unfold operand at value ⊢
  dsimp only at value ⊢
  split at value
  · rename_i callee
    rw [if_pos callee]
    split at value
    · rename_i outcome closed
      apply (clean_evaluate_iff callee).mpr
      simp [outcome]
    · cases value
    · cases value
  · rename_i single
    rw [if_neg single]
    split at value
    · rfl
    · split at value
      · cases value
      · rename_i identifier
        rw [if_neg identifier]
        split at value
        · rfl
        · cases value
        · cases value

private theorem touches_foldAt (same : state.table = table) (target : Nat) (operator : Operator)
    (op current : Token) (value : Value) :
    Touches table (script.foldAt state i target operator op current value) := by
  subst same
  unfold foldAt
  split
  · exact .keeps rfl
  · split
    · exact .keeps rfl
    · exact state.touches_fold ..

private theorem touches_useOperand (same : state.table = table) (operator : Operator) (op current : Token)
    {read : OperandResult} (clean : ∀ operand, read.operand = some operand → Event.Clean read.events) :
    Touches table (script.useOperand state i operator op current read) := by
  unfold useOperand
  split
  · rename_i operand _ value _
    apply Touches.after _ (clean operand value)
    apply touches_foldAt
    exact same
  · exact .keeps same

private theorem touches_combine (operator : Operator) (op current : Token) :
    Touches state.table (script.combine state i operator op current) := by
  unfold combine
  dsimp only
  split
  · exact .keeps rfl
  · apply touches_useOperand (state.notes_notingOperand _).table
    intro operand
    exact clean_operand

private theorem touches_checkGrammar (previous current : Token) :
    Touches state.table (script.checkGrammar state i previous current) := by
  rcases script.checkGrammar_cases state i previous current with notes | ⟨type, _, notes⟩
  · exact .keeps notes.table
  · exact state.touches_declare ⟨i, current⟩ type notes

/-- The value that a call returns is stored after a call without a report. -/
theorem touches_assign_call {target current : Token} (callee : script.isCallee i = true) :
    Touches state.table (script.assign state i target current).progress := by
  simp only [assign, callee, if_true]
  split
  · rename_i name settled
    have destined := state.clean_destination _ settled
    cases outcome : (script.evaluate state.table i current).outcome with
    | failed => exact .keeps rfl
    | void => exact .keeps rfl
    | value value =>
      have evaluated : Event.Clean (script.evaluate state.table i current).events :=
        (clean_evaluate_iff callee).mpr (by simp [outcome])
      apply Touches.after _ (Event.clean_append.mpr ⟨destined, evaluated⟩)
      exact State.touches_store (state.noting _) ..
  · exact .keeps rfl

/-- A single value is stored into a destination that was found without a report. -/
theorem touches_assign_single {target current : Token} (single : script.isCallee i = false)
    (value : current.isValue = true) :
    Touches state.table (script.assign state i target current).progress := by
  simp only [assign, single, Bool.false_eq_true, if_false, value, Bool.not_true]
  split
  · exact .keeps rfl
  · exact .keeps rfl
  · split
    · exact .keeps rfl
    · rename_i name settled
      exact (state.touches_store ..).after (state.clean_destination _ settled)

private theorem assign_state_of_not_value {target current : Token} (single : script.isCallee i = false)
    (notValue : current.isValue = false) :
    (script.assign state i target current).progress.state = state := by
  simp only [assign, single, Bool.false_eq_true, if_false, notValue, Bool.not_false, if_true]
  split
  · rfl
  · rfl

/-- Behind an equal sign the rules of the grammar declare nothing. -/
theorem checkGrammar_table_behind_equals {equals : Token} (kind : equals.kind = .equals)
    (current : Token) : (script.checkGrammar state i equals current).state.table = state.table := by
  rcases script.checkGrammar_cases state i equals current with notes | ⟨_, keyword, _⟩
  · exact notes.table
  · rw [kind] at keyword
    cases keyword

/-- Behind an equal sign the assignment comes first, and the rules of the grammar change nothing any more. -/
theorem touches_behind_equals {equals target current : Token} (kind : equals.kind = .equals) :
    let ruling := script.assign state i target current
    Touches state.table (if ruling.continues then
      (script.checkGrammar ruling.progress.state i equals current).after ruling.progress.events
      else ruling.progress) := by
  dsimp only
  cases callee : script.isCallee i with
  | true =>
    rw [continues_assign_of_isCallee callee, if_neg Bool.false_ne_true]
    exact touches_assign_call callee
  | false =>
    cases value : current.isValue with
    | true =>
      have touches : Touches state.table (script.assign state i target current).progress :=
        touches_assign_single callee value
      rw [checkGrammar_behind_equals kind value callee]
      split
      · cases touches with
        | keeps same => exact .keeps same
        | adds declared => exact .adds declared
        | changes names changed clean => exact .changes names changed (by simpa using clean)
      · exact touches
    | false =>
      have same : (script.assign state i target current).progress.state = state :=
        assign_state_of_not_value callee value
      split
      · exact .keeps (by rw [Progress.after_state, checkGrammar_table_behind_equals kind, same])
      · exact .keeps (by rw [same])

private theorem touches_follow (previous current : Token) :
    Touches state.table (script.follow state i previous current) := by
  unfold follow
  split
  · exact touches_combine ..
  · split
    · exact touches_checkGrammar ..
    · rename_i target found
      have kind : previous.kind = .equals := by
        split at found
        · assumption
        · cases found
      exact touches_behind_equals kind

theorem touches_step (script : Script) (state : State) (i : Nat) :
    Touches state.table (script.step state i) := by
  unfold step
  split
  · exact .keeps rfl
  · split
    · exact .keeps rfl
    · split
      · unfold State.begin
        split <;> exact .keeps rfl
      · exact touches_follow ..

/-! ### Any step in any state of a run -/

/-- In any state of a run and at any position, a step that finds something wrong keeps the variables that are
there, each with its value, its place and whether it is initialized, and adds one variable at most. A step that
finds nothing wrong changes one variable at most. Whatever it does, the variables that are there keep their
names, types and places in the table. -/
theorem step_reporting (script : Script) (n i : Nat) :
    let before := (script.stateAt n).table
    let progress := script.step (script.stateAt n) i
    (progress.findings ≠ [] →
        ∃ fresh, progress.state.table.symbols = before.symbols ++ fresh ∧ fresh.length ≤ 1) ∧
      (progress.findings = [] → ∃ k : Nat, ∀ (j : Nat) (symbol : Symbol), j ≠ k →
        before.symbols[j]? = some symbol → progress.state.table.symbols[j]? = some symbol) ∧
      before.headings <+: progress.state.table.headings := by
  have touches := script.touches_step (script.stateAt n) i
  refine ⟨fun findings => ?_, fun _ => ?_, ?_⟩
  · cases touches with
    | keeps same => exact ⟨[], by simp [same], by simp⟩
    | adds declared => exact ⟨_, Table.symbols_declare declared, by simp⟩
    | changes _ _ clean => exact absurd clean findings
  · cases touches with
    | keeps same => exact ⟨0, fun j symbol _ there => by rw [same]; exact there⟩
    | adds declared =>
      refine ⟨0, fun j symbol _ there => ?_⟩
      rw [Table.symbols_declare declared,
        List.getElem?_append_left (List.getElem?_eq_some_iff.mp there).1]
      exact there
    | changes _ changed _ =>
      obtain ⟨k, others⟩ := Table.exists_symbols_change (script.distinct_stateAt n) _
      exact ⟨k, fun j symbol apart there => by rw [changed]; exact others j symbol apart there⟩
  · cases script.headings_step (script.distinct_stateAt n) i with
    | keeps _ same => exact ⟨[], by rw [List.append_nil, same]⟩
    | adds _ heading _ grows => exact ⟨[heading], grows.symm⟩

end Script

end ScriptCheck
