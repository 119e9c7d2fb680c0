import ScriptCheck.Proofs.Run.Trajectory
import ScriptCheck.Proofs.Call.Order
import ScriptCheck.Proofs.Table.Changes

/-! # What a step can do

`Script.moves_step` lists what can happen to the variables, the refused positions and the chain at one
position, each with the tokens that ask for it: a declaration, a store, or a fold. Whatever else a
step does is to note calls. Facts about all runs are case analyses over this list.
-/

namespace ScriptCheck

/-- From one state to the next nothing but calls has been noted. -/
structure State.Notes (before after : State) : Prop where
  table : after.table = before.table
  refused : after.refused = before.refused
  chain : after.chain = before.chain

namespace State

private theorem Notes.refl (state : State) : state.Notes state := ⟨rfl, rfl, rfl⟩

private theorem Notes.trans {first second third : State} (before : first.Notes second)
    (after : second.Notes third) : first.Notes third :=
  ⟨after.table.trans before.table, after.refused.trans before.refused,
    after.chain.trans before.chain⟩

private theorem notes_noting (state : State) (result : CallResult) : state.Notes (state.noting result) :=
  ⟨rfl, rfl, rfl⟩

theorem notes_notingOperand (state : State) (read : OperandResult) :
    state.Notes (state.notingOperand read) := by
  unfold notingOperand
  split
  · exact state.notes_noting _
  · exact .refl state

/-- What is no name is not declared. -/
theorem declare_unnamed {state : State} {site : Site} (unnamed : site.token.isName = false) (type : ValueType) :
    state.declare site type = state.report site (.invalidName site.token.text) := by
  simp [declare, unnamed]

/-- A name that no variable bears is declared. -/
theorem declare_new {state : State} {site : Site} {type : ValueType} {larger : Table}
    (name : site.token.isName = true)
    (declared : state.table.declare? site.token.text type site.token.scope = some larger) :
    state.declare site type = ⟨{ state with table := larger }, [.declared site type]⟩ := by
  simp [declare, name, declared]

/-- A name that a variable bears is refused. -/
theorem declare_known {state : State} {site : Site} (name : site.token.isName = true)
    (known : state.table.has site.token.text = true) (type : ValueType) :
    state.declare site type =
      { state with refused := state.refused ++ [site.position] }.report site (.redeclared site.token.text) := by
  simp [declare, name, Table.declare?, known]

/-- A declaration adds a variable, or it refuses a name that is there. -/
theorem declare_cases (state : State) (site : Site) (type : ValueType) :
    (state.declare site type).state = state ∨
      (∃ larger, state.table.declare? site.token.text type site.token.scope = some larger ∧
        (state.declare site type).state = { state with table := larger }) ∨
      (state.declare site type).state = { state with refused := state.refused ++ [site.position] } := by
  unfold declare
  dsimp only
  split
  · exact .inl rfl
  · split
    · rename_i larger declared
      exact .inr (.inl ⟨larger, declared, rfl⟩)
    · exact .inr (.inr rfl)

@[simp] theorem declare_chain (state : State) (site : Site) (type : ValueType) :
    (state.declare site type).state.chain = state.chain := by
  rcases state.declare_cases site type with same | ⟨_, _, same⟩ | same <;> rw [same]

/-- A store that goes through finds the variable, with the type of the value. -/
theorem store_cases (state : State) (site : Site) (target : String) (value : Value)
    (mismatch : Problem) :
    (state.store site target value mismatch).progress.state = state ∨
      ∃ symbol, state.table.find? target = some symbol ∧ symbol.type = value.type ∧
        (state.store site target value mismatch).progress.state =
          { state with table := state.table.assign target value } := by
  unfold store
  split
  · exact .inl rfl
  · rename_i symbol found
    split
    · rename_i type
      exact .inr ⟨symbol, found, type, rfl⟩
    · exact .inl rfl

private theorem storeOutcome_cases (state : State) (site : Site) (target : String) (outcome : Outcome) :
    (state.storeOutcome site target outcome).state = state ∨
      ∃ symbol value, state.table.find? target = some symbol ∧ symbol.type = value.type ∧
        (state.storeOutcome site target outcome).state =
          { state with table := state.table.assign target value } := by
  cases outcome with
  | failed => exact .inl rfl
  | void => exact .inl rfl
  | value value =>
    rcases state.store_cases site target value (.resultType site.token.text target) with
      same | ⟨symbol, found, type, stored⟩
    · exact .inl same
    · exact .inr ⟨symbol, value, found, type, stored⟩

/-- A fold that goes through finds the variable, and the operator has a result. -/
theorem fold_cases (state : State) (site : Site) (operator : Operator) (op target : Token)
    (value : Value) :
    (state.fold site operator op target value).state = state ∨
      ∃ symbol result, state.table.find? target.text = some symbol ∧
        operator.apply symbol.value value = some result ∧
        (state.fold site operator op target value).state =
          { state with table := state.table.update target.text result } := by
  unfold fold
  split
  · exact .inl rfl
  · exact .inl rfl
  · rename_i old visible
    obtain ⟨symbol, found, _, rfl⟩ := Table.resolve_eq_visible_iff.mp visible
    split
    · exact .inl rfl
    · split
      · exact .inl rfl
      · rename_i result applies
        exact .inr ⟨symbol, result, found, applies, rfl⟩

/-- A settled destination is the assigned token, and its declaration was not refused. -/
theorem destination_eq_some {state : State} {position : Nat} {target : Token} {site : Site}
    {name : String} (settled : (state.destination position target site).1 = some name) :
    name = target.text ∧ position ∉ state.refused := by
  unfold destination at settled
  split at settled
  · cases settled
  · rename_i accepted
    refine ⟨?_, by simpa using accepted⟩
    split at settled
    · exact (Option.some.inj settled).symm
    · cases settled
    · cases settled

end State

namespace Script

variable {script : Script} {state next : State} {i : Nat}

/-- The chain after the operand at position `i`, when the operator before it changes `target`. -/
inductive Continues (script : Script) (table : Table) (i target : Nat) : Chain → Prop
  | single {t : Token} (read : script.tokens[i]? = some t) (value : t.isValue = true)
      (single : script.isCallee i = false) :
      Continues script table i target ⟨i, if t.isName then i else target⟩
  | call {t : Token} {last : Nat} (callee : script.isCallee i = true)
      (closed : (script.evaluate table i t).close = some last) :
      Continues script table i target ⟨last, target⟩

/-- What a step can do at position `i`, apart from noting calls. -/
inductive Moves (script : Script) (state : State) (i : Nat) (next : State) : Prop
  /-- Nothing. -/
  | quiet (notes : state.Notes next)
  /-- The token behind a type keyword is declared. -/
  | declares {previous current : Token} {type : ValueType}
      (before : script.before? i 1 = some previous) (read : script.tokens[i]? = some current)
      (keyword : previous.kind.declares? = some type)
      (notes : (state.declare ⟨i, current⟩ type).state.Notes next)
  /-- A value is stored into the variable before an equal sign. -/
  | stores {equals target : Token} {symbol : Symbol} {value : Value}
      (before : script.before? i 1 = some equals) (kind : equals.kind = .equals)
      (assigned : script.before? i 2 = some target) (accepted : i - 2 ∉ state.refused)
      (found : state.table.find? target.text = some symbol) (type : symbol.type = value.type)
      (notes : { state with table := state.table.assign target.text value }.Notes next)
  /-- An operator has found its target, which it need not be able to change. -/
  | aims {op : Token} {target : Nat} {chain : Chain} (before : script.before? i 1 = some op)
      (left : script.hasLeft i = true) (operator : op.kind.operator?.isSome) (aim : script.foldTarget state i = some target)
      (continues : script.Continues state.table i target chain)
      (notes : { state with chain := some chain }.Notes next)
  /-- A value is folded into the target of an operator. -/
  | folds {op named : Token} {operator : Operator} {target : Nat} {chain : Chain} {symbol : Symbol}
      {value result : Value}
      (before : script.before? i 1 = some op) (left : script.hasLeft i = true)
      (kind : op.kind.operator? = some operator) (aim : script.foldTarget state i = some target)
      (continues : script.Continues state.table i target chain) (accepted : target ∉ state.refused)
      (read : script.tokens[target]? = some named)
      (found : state.table.find? named.text = some symbol)
      (applies : operator.apply symbol.value value = some result)
      (notes : { state with table := state.table.update named.text result,
                            chain := some chain }.Notes next)

/-- Noting calls does not change the target of an operator. -/
theorem foldTarget_of_notes (notes : state.Notes next) :
    script.foldTarget next i = script.foldTarget state i := by
  rw [foldTarget, foldTarget, notes.chain]

private theorem Moves.noting {mid : State} (moves : script.Moves state i mid) (notes : mid.Notes next) :
    script.Moves state i next := by
  cases moves with
  | quiet first => exact .quiet (first.trans notes)
  | declares before read keyword first => exact .declares before read keyword (first.trans notes)
  | stores before kind assigned accepted found type first =>
    exact .stores before kind assigned accepted found type (first.trans notes)
  | aims before left operator aim continues first =>
    exact .aims before left operator aim continues (first.trans notes)
  | folds before left kind aim continues accepted read found applies first =>
    exact .folds before left kind aim continues accepted read found applies (first.trans notes)

/-! ### Rule by rule -/

/-- Evaluates the call at position `i`, after what has happened there, unless it has been evaluated. -/
def evaluateFresh (script : Script) (i : Nat) (current : Token) (declared : Progress) : Progress :=
  if script.isCallee i && !declared.state.evaluated.contains i then
    let call := script.evaluate declared.state.table i current
    ⟨declared.state.noting call, declared.events ++ call.events⟩
  else declared

theorem enterValue_eq (script : Script) (state : State) (i : Nat) (previous current : Token) :
    script.enterValue state i previous current =
      if previous.isValue then state.report ⟨i, current⟩ (.adjacent previous.text current.text)
      else script.evaluateFresh i current (match previous.kind.declares? with
        | some type => state.declare ⟨i, current⟩ type
        | none => state.idle) := rfl

private theorem notes_evaluateFresh (script : Script) (i : Nat) (current : Token) (declared : Progress) :
    declared.state.Notes (script.evaluateFresh i current declared).state := by
  unfold evaluateFresh
  split
  · exact State.notes_noting ..
  · exact .refl _

private theorem enterValue_cases (script : Script) (state : State) (i : Nat)
    (previous current : Token) :
    state.Notes (script.enterValue state i previous current).state ∨
      ∃ type, previous.kind.declares? = some type ∧
        (state.declare ⟨i, current⟩ type).state.Notes
          (script.enterValue state i previous current).state := by
  rw [enterValue_eq]
  split
  · exact .inl (.refl state)
  cases previous.kind.declares? with
  | some type => exact .inr ⟨type, rfl, script.notes_evaluateFresh i current (state.declare ⟨i, current⟩ type)⟩
  | none => exact .inl (script.notes_evaluateFresh i current state.idle)

/-- The rules of the grammar change the variables only behind a type keyword. -/
theorem checkGrammar_cases (script : Script) (state : State) (i : Nat) (previous current : Token) :
    state.Notes (script.checkGrammar state i previous current).state ∨
      ∃ type, previous.kind.declares? = some type ∧
        (state.declare ⟨i, current⟩ type).state.Notes
          (script.checkGrammar state i previous current).state := by
  unfold checkGrammar
  dsimp only
  split
  case h_1 | h_2 | h_4 | h_5 | h_6 | h_7 => split <;> exact .inl (.refl state)
  case h_3 =>
    unfold State.endStatement
    repeat' split
    all_goals exact .inl (.refl state)
  case h_8 | h_9 => exact script.enterValue_cases state i previous current
  all_goals exact .inl (.refl state)

theorem moves_assign {target current equals : Token} (before : script.before? i 1 = some equals)
    (kind : equals.kind = .equals) (assigned : script.before? i 2 = some target) :
    script.Moves state i (script.assign state i target current).progress.state := by
  unfold assign
  dsimp only
  split
  · split
    · rename_i name settled
      obtain ⟨rfl, accepted⟩ := State.destination_eq_some settled
      rw [Progress.after_state]
      rcases State.storeOutcome_cases (state.noting (script.evaluate state.table i current))
        ⟨i, current⟩ target.text (script.evaluate state.table i current).outcome with
        same | ⟨symbol, value, found, type, stored⟩
      · rw [same]
        exact .quiet (state.notes_noting _)
      · rw [stored]
        exact .stores before kind assigned accepted found type ⟨rfl, rfl, rfl⟩
    · exact .quiet (state.notes_noting _)
  · split
    · split <;> exact .quiet (.refl state)
    · split
      · exact .quiet (.refl state)
      · exact .quiet (.refl state)
      · split
        · exact .quiet (.refl state)
        · rename_i value _ _ name settled
          obtain ⟨rfl, accepted⟩ := State.destination_eq_some settled
          rw [Progress.after_state]
          rcases state.store_cases ⟨i, current⟩ target.text value
            (.sourceType current.asSource target.text) with same | ⟨symbol, found, type, stored⟩
          · rw [same]
            exact .quiet (.refl state)
          · rw [stored]
            exact .stores before kind assigned accepted found type (.refl _)

/-- The chain goes on behind the operand, from the operand itself if it is a variable. -/
private theorem continues_operand {table : Table} {op current : Token} {read : Operand}
    (found : script.tokens[i]? = some current)
    (value : (script.operand table i op current).operand = some read) (target : Nat) :
    script.Continues table i target
      ⟨read.last, if read.last = i && current.isName then i else target⟩ := by
  unfold Script.operand at value
  dsimp only at value
  split at value
  · rename_i callee
    split at value
    · rename_i last _ closed
      obtain rfl := Option.some.inj value
      have reaches := ((ordered_evaluate table current callee).up_to_close last closed).1
      have apart : ¬ last = i := by omega
      simp only [apart, decide_false, Bool.false_and, Bool.false_eq_true, if_false]
      exact .call callee closed
    · cases value
    · cases value
  · rename_i notCallee
    have single : script.isCallee i = false := by simpa using notCallee
    split at value
    · rename_i literal isLiteral
      obtain rfl := Option.some.inj value
      simp only [decide_true, Bool.true_and]
      exact .single found (Token.isValue_of_literal? isLiteral) single
    · split at value
      · cases value
      · rename_i kind
        have isValue : current.isValue = true := by simp_all [Token.isValue, Kind.isValue]
        split at value
        · obtain rfl := Option.some.inj value
          simp only [decide_true, Bool.true_and]
          exact .single found isValue single
        · cases value
        · cases value

private theorem moves_foldAt {op current : Token} {operator : Operator} {target : Nat}
    {chain : Chain} {value : Value} {noted : State} (before : script.before? i 1 = some op)
    (left : script.hasLeft i = true) (kind : op.kind.operator? = some operator) (notes : state.Notes noted)
    (aim : script.foldTarget state i = some target)
    (continues : script.Continues state.table i target chain) :
    script.Moves state i (script.foldAt { noted with chain := some chain } i target operator op current
      value).state := by
  have aims : script.Moves state i { noted with chain := some chain } :=
    .aims before left (by rw [kind]; rfl) aim continues ⟨notes.table, notes.refused, rfl⟩
  unfold foldAt
  split
  · exact aims
  · rename_i accepted
    rw [notes.refused] at accepted
    split
    · exact aims
    · rename_i named read
      rcases State.fold_cases { noted with chain := some chain } ⟨i, current⟩ operator op named value with
        same | ⟨symbol, result, found, applies, folded⟩
      · rw [same]
        exact aims
      · rw [folded]
        rw [notes.table] at found
        refine .folds before left kind aim continues (by simpa using accepted) read found applies ?_
        exact ⟨by rw [notes.table], notes.refused, rfl⟩

private theorem moves_combine {op current : Token} {operator : Operator}
    (before : script.before? i 1 = some op) (read : script.tokens[i]? = some current)
    (kind : op.kind.operator? = some operator) :
    script.Moves state i (script.combine state i operator op current).state := by
  unfold combine
  dsimp only
  split
  · exact .quiet (.refl state)
  rename_i present
  have left : script.hasLeft i = true := by simpa using present
  have notes := state.notes_notingOperand (script.operand state.table i op current)
  unfold useOperand
  split
  · rename_i value target operand aim
    have same : script.foldTarget state i = some target := by
      rw [← aim, foldTarget_of_notes notes]
    exact moves_foldAt before left kind notes same (continues_operand read operand target)
  · exact .quiet notes

private theorem moves_follow {previous current : Token} (before : script.before? i 1 = some previous)
    (read : script.tokens[i]? = some current) :
    script.Moves state i (script.follow state i previous current).state := by
  unfold follow
  split
  · rename_i operator isOperator
    exact moves_combine before read isOperator
  · split
    · rcases script.checkGrammar_cases state i previous current with notes | ⟨type, keyword, notes⟩
      · exact .quiet notes
      · exact .declares before read keyword notes
    · rename_i target found
      have kind : previous.kind = .equals := by
        split at found
        · assumption
        · cases found
      rw [if_pos kind] at found
      dsimp only
      split
      · have moves : script.Moves state i (script.assign state i target current).progress.state :=
          moves_assign before kind found
        apply moves.noting
        rcases script.checkGrammar_cases (script.assign state i target current).progress.state i previous
          current with notes | ⟨type, keyword, _⟩
        · exact notes
        · rw [kind] at keyword
          cases keyword
      · exact moves_assign before kind found

theorem moves_step (script : Script) (state : State) (i : Nat) :
    script.Moves state i (script.step state i).state := by
  unfold step
  split
  · exact .quiet (.refl state)
  · split
    · exact .quiet (.refl state)
    · rename_i current read
      split
      · unfold State.begin
        split <;> exact .quiet (.refl state)
      · rename_i previous before
        exact moves_follow before read

/-! ### Which rule applies -/

/-- Inside a call that was given up, and behind the last token, nothing happens. -/
theorem step_eq_idle (passes : ¬ (state.resume ≤ i ∧ i < script.tokens.length)) :
    script.step state i = state.idle := by
  unfold step
  split
  · rfl
  · rename_i ahead
    rw [List.getElem?_eq_none (Nat.le_of_not_lt fun inside => passes ⟨Nat.le_of_not_lt ahead, inside⟩)]

theorem step_eq_follow {previous current : Token} (ahead : state.resume ≤ i)
    (before : script.before? i 1 = some previous) (read : script.tokens[i]? = some current) :
    script.step state i = script.follow state i previous current := by
  rw [step, if_neg (Nat.not_lt.mpr ahead), read, before]

theorem follow_eq_checkGrammar {previous : Token} (current : Token)
    (notOperator : previous.kind.operator? = none) (notEquals : previous.kind ≠ .equals) :
    script.follow state i previous current = script.checkGrammar state i previous current := by
  rw [follow, notOperator, if_neg notEquals]

theorem checkGrammar_eq_enterValue {current : Token} (previous : Token)
    (value : current.isValue = true) :
    script.checkGrammar state i previous current = script.enterValue state i previous current := by
  have kind : current.kind = .identifier ∨ current.kind = .stringLiteral := by
    simpa [Token.isValue, Kind.isValue] using value
  rcases kind with kind | kind <;> rw [checkGrammar, kind]

/-- Behind a type keyword a value is declared, and then evaluated if it is a callee. -/
theorem step_behind_type {keyword current : Token} {type : ValueType} (ahead : state.resume ≤ i)
    (before : script.before? i 1 = some keyword) (declares : keyword.kind.declares? = some type)
    (read : script.tokens[i]? = some current) (value : current.isValue = true) :
    script.step state i =
      let declared := state.declare ⟨i, current⟩ type
      let call := script.evaluate declared.state.table i current
      if script.isCallee i && !declared.state.evaluated.contains i then
        ⟨declared.state.noting call, declared.events ++ call.events⟩
      else declared := by
  have notOperator : keyword.kind.operator? = none := by
    cases kind : keyword.kind <;> simp [kind, Kind.declares?] at declares <;> rfl
  have notEquals : keyword.kind ≠ .equals := by
    intro kind
    simp [kind, Kind.declares?] at declares
  have notValue : ¬ keyword.isValue = true := by
    cases kind : keyword.kind <;> simp [kind, Kind.declares?] at declares <;>
      simp [Token.isValue, Kind.isValue, kind]
  rw [step_eq_follow ahead before read, follow_eq_checkGrammar current notOperator notEquals,
    checkGrammar_eq_enterValue keyword value, enterValue, if_neg notValue, declares]

end Script

end ScriptCheck
