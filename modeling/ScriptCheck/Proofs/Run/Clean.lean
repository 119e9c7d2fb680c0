import ScriptCheck.Proofs.Call.Value
import ScriptCheck.Proofs.Run.Calls

/-! # Rules that find nothing wrong

Where a rule reports nothing, it has done what the tokens ask for: a store or a fold has gone through, and an
operand has the value of its term. What goes wrong is reported by the rule that it goes wrong in, so nothing
is left undone in silence but what a refused position asks for.
-/

namespace ScriptCheck

namespace State

variable {state : State} {site : Site} {target : Token} {value : Value}

/-- A destination without a finding is a variable that is there. -/
theorem destination_clean {position : Nat} (accepted : position ∉ state.refused)
    (clean : Event.Clean (state.destination position target site).2) :
    (∃ symbol, state.table.find? target.text = some symbol) ∧
      state.destination position target site = (some target.text, []) := by
  unfold destination at clean ⊢
  rw [if_neg (by simpa using accepted)] at clean ⊢
  split at clean
  · rename_i visible
    obtain ⟨symbol, found, _, _⟩ := Table.resolve_eq_visible_iff.mp visible
    exact ⟨⟨symbol, found⟩, rfl⟩
  · exact (Event.not_clean_reported _ _ clean).elim
  · exact (Event.not_clean_reported _ _ clean).elim

/-- A declaration without a finding adds a variable. -/
theorem declare_clean {type : ValueType} (clean : Event.Clean (state.declare site type).events) :
    ∃ larger, (state.declare site type).state = { state with table := larger } := by
  unfold declare at clean ⊢
  dsimp only at clean ⊢
  split at clean
  · exact (Event.not_clean_reported _ _ clean).elim
  · rename_i name
    rw [if_neg name]
    split at clean
    · rename_i larger _
      exact ⟨larger, rfl⟩
    · exact (Event.not_clean_reported _ _ clean).elim

/-- A store without a finding goes through, if the variable is there. -/
theorem store_clean {name : String} {symbol : Symbol} {mismatch : Problem}
    (found : state.table.find? name = some symbol)
    (clean : Event.Clean (state.store site name value mismatch).progress.events) :
    state.store site name value mismatch =
      ⟨⟨{ state with table := state.table.assign name value }, [.stored site name value]⟩, true⟩ := by
  unfold store at clean ⊢
  rw [found] at clean ⊢
  dsimp only at clean ⊢
  split at clean
  · rename_i sameType
    rw [if_pos sameType]
  · exact (Event.not_clean_reported _ _ clean).elim

/-- A fold without a finding goes through. -/
theorem fold_clean {operator : Operator} {op : Token}
    (clean : Event.Clean (state.fold site operator op target value).events) :
    ∃ old result, state.table.value? target.text = some old ∧
      operator.apply old value = some result ∧
      state.fold site operator op target value =
        ⟨{ state with table := state.table.update target.text result },
          [.folded site target.text op.text result]⟩ := by
  unfold fold at clean ⊢
  split at clean
  · exact (Event.not_clean_reported _ _ clean).elim
  · exact (Event.not_clean_reported _ _ clean).elim
  · rename_i old visible
    split at clean
    · exact (Event.not_clean_reported _ _ clean).elim
    · rename_i sameType
      split at clean
      · exact (Event.not_clean_reported _ _ clean).elim
      · rename_i result applies
        refine ⟨old, result, Table.value?_of_visible visible, applies, ?_⟩
        simp [sameType]

end State

namespace Script

variable {script : Script} {state : State} {table : Table} {p : Nat} {term : Term}

/-- A call begins with its callee. -/
theorem isCallee_of_stands {callee : Token} {opening : Mark .openParen} {rest : List Token}
    (name : callee.isName = true) (stands : script.Stands p (callee :: opening.token :: rest)) :
    script.isCallee p = true := by
  obtain ⟨read, stands⟩ := stands_cons.mp stands
  exact isCallee_iff.mpr ⟨callee, opening.token, read, name, (stands_cons.mp stands).1, opening.is⟩

/-- A term whose first token is no callee is a single value. -/
theorem exists_single (stands : script.Stands p term.tokens) (single : script.isCallee p = false) :
    ∃ t value, term = .single t value := by
  cases term with
  | single t value => exact ⟨t, value, rfl⟩
  | bare callee name opening close => simp [isCallee_of_stands name stands] at single
  | call callee name opening args close => simp [isCallee_of_stands name stands] at single

/-- A call that is an operand without a finding is evaluated without one. -/
theorem evaluate_clean_of_operand {current op : Token} (calls : script.isCallee p = true)
    (clean : Event.Clean (script.operand table p op current).events) :
    Event.Clean (script.evaluate table p current).events := by
  simp only [operand, calls, if_true] at clean
  split at clean
  · exact clean
  · exact (Event.clean_append.mp clean).1
  · exact clean

/-- An operand without a finding has the value of its term, and ends where the term does. -/
theorem operand_clean {op : Token} (stands : script.Stands p term.tokens)
    (apart : ∀ t, script.tokens[p + term.tokens.length]? = some t → t.kind ≠ .openParen)
    (clean : Event.Clean (script.operand table p op term.head).events) :
    ∃ value, term.value? script.natives table = some value ∧
      (script.operand table p op term.head).operand =
        some ⟨value, p + term.tokens.length - 1⟩ := by
  cases calls : script.isCallee p with
  | true =>
    obtain ⟨closed, _, outcome⟩ :=
      evaluate_clean stands calls apart (evaluate_clean_of_operand calls clean)
    simp only [Script.operand, calls, if_true, closed] at clean ⊢
    cases has : term.value? script.natives table with
    | some value =>
      rw [outcome, has]
      exact ⟨value, rfl, rfl⟩
    | none =>
      rw [outcome, has] at clean
      exact (Event.not_clean_reported _ _ (Event.clean_append.mp clean).2).elim
  | false =>
    obtain ⟨t, isValue, rfl⟩ := exists_single stands calls
    simp only [Script.operand, calls, Bool.false_eq_true, if_false, Term.head, Term.value?]
      at clean ⊢
    cases literal : t.literal? with
    | some value => exact ⟨value, rfl, rfl⟩
    | none =>
      simp only [literal, Option.none_or] at clean ⊢
      by_cases isIdentifier : t.kind = .identifier
      · simp only [isIdentifier, ne_eq, not_true_eq_false, if_false] at clean ⊢
        cases meaning : table.resolve t.text t.scope with
        | visible value => exact ⟨value, Table.value?_of_visible meaning, rfl⟩
        | hidden =>
          rw [meaning] at clean
          exact (Event.not_clean_reported _ _ clean).elim
        | unknown =>
          rw [meaning] at clean
          exact (Event.not_clean_reported _ _ clean).elim
      · simp only [ne_eq, isIdentifier, not_false_eq_true, if_true] at clean
        exact (Event.not_clean_reported _ _ clean).elim

/-! ### The steps of an assignment -/

/-- Between two states the operand at `p` has been used, `length` tokens long: nothing but its callees has
been noted, and it ends where its call does. -/
structure Uses (script : Script) (p length : Nat) (state next : State) : Prop where
  refused : next.refused = state.refused
  resume : next.resume = state.resume
  inside : script.isCallee p = true → ∃ table t,
    (script.evaluate table p t).close = some (p + length - 1) ∧
      ∀ c ∈ (script.evaluate table p t).callees, c ∈ next.evaluated

/-- Behind an equal sign a single value asks for nothing else. -/
theorem checkGrammar_behind_equals {equals current : Token} (kind : equals.kind = .equals)
    (value : current.isValue = true) (single : script.isCallee p = false) :
    script.checkGrammar state p equals current = state.idle := by
  have notValue : ¬ equals.isValue = true := by simp [Token.isValue, Kind.isValue, kind]
  rw [checkGrammar_eq_enterValue equals value, enterValue, if_neg notValue]
  simp [kind, Kind.declares?, single]

/-- What a value behind an equal sign stands for: itself, or what its name means where the target stands. -/
def source (table : Table) (target current : Token) : Resolution :=
  match current.literal? with
  | some value => .visible value
  | none => table.resolve current.text target.scope

/-- A single value without a finding is stored. -/
theorem assign_single_clean {t target : Token} (single : script.isCallee p = false)
    (isValue : t.isValue = true) (accepted : p - 2 ∉ state.refused)
    (clean : Event.Clean (script.assign state p target t).progress.events) :
    ∃ value, t.literal?.or (state.table.value? t.text) = some value ∧
      (∃ symbol, state.table.find? target.text = some symbol) ∧
      (script.assign state p target t).continues = true ∧
      (script.assign state p target t).progress.state =
        { state with table := state.table.assign target.text value } := by
  simp only [assign, single, Bool.false_eq_true, if_false, isValue, Bool.not_true] at clean ⊢
  split at clean
  · exact (Event.not_clean_reported _ _ (Event.clean_append.mp clean).2).elim
  · exact (Event.not_clean_reported _ _ (Event.clean_append.mp clean).2).elim
  · rename_i value means
    have has : t.literal?.or (state.table.value? t.text) = some value := by
      cases literal : t.literal? with
      | some given =>
        rw [literal] at means
        cases means
        rfl
      | none =>
        rw [literal] at means
        rw [Option.none_or, Table.value?_of_visible means]
    have destined : Event.Clean (state.destination (p - 2) target ⟨p, t⟩).2 := by
      split at clean
      · exact clean
      · exact (Event.clean_append.mp clean).1
    obtain ⟨⟨symbol, found⟩, settled⟩ := State.destination_clean accepted destined
    simp only [settled] at clean ⊢
    rw [State.store_clean found (Event.clean_append.mp clean).2]
    exact ⟨value, has, ⟨symbol, found⟩, rfl, rfl⟩

private theorem assign_call_clean {target : Token} (calls : script.isCallee p = true)
    (stands : script.Stands p term.tokens)
    (apart : ∀ t, script.tokens[p + term.tokens.length]? = some t → t.kind ≠ .openParen)
    (accepted : p - 2 ∉ state.refused)
    (clean : Event.Clean (script.assign state p target term.head).progress.events) :
    ∃ value, term.value? script.natives state.table = some value ∧
      (∃ symbol, state.table.find? target.text = some symbol) ∧
      (script.assign state p target term.head).progress.state.table =
        state.table.assign target.text value ∧
      script.Uses p term.tokens.length state (script.assign state p target term.head).progress.state := by
  simp only [assign, calls, if_true, Progress.after_events, Event.clean_append] at clean ⊢
  obtain ⟨⟨destined, evaluated⟩, stored⟩ := clean
  obtain ⟨⟨symbol, found⟩, settled⟩ := State.destination_clean accepted destined
  obtain ⟨closed, resume, outcome⟩ := evaluate_clean stands calls apart evaluated
  simp only [settled, outcome] at stored ⊢
  cases has : term.value? script.natives state.table with
  | none =>
    rw [has] at stored
    exact (Event.not_clean_reported _ _ stored).elim
  | some value =>
    simp only [has] at stored ⊢
    have goes := State.store_clean (by exact found) stored
    rw [Progress.after_state, State.storeOutcome, goes]
    refine ⟨value, rfl, ⟨symbol, found⟩, rfl, rfl, by simp [State.noting, resume], fun _ => ?_⟩
    exact ⟨state.table, term.head, closed, fun c member => List.mem_append_right _ member⟩

/-- The first operand of an assignment without a finding is stored. -/
theorem step_first {equals target : Token} (ahead : state.resume ≤ p)
    (before : script.before? p 1 = some equals) (kind : equals.kind = .equals)
    (assigned : script.before? p 2 = some target) (accepted : p - 2 ∉ state.refused)
    (stands : script.Stands p term.tokens)
    (apart : ∀ t, script.tokens[p + term.tokens.length]? = some t → t.kind ≠ .openParen)
    (clean : Event.Clean (script.step state p).events) :
    ∃ value, term.value? script.natives state.table = some value ∧
      (∃ symbol, state.table.find? target.text = some symbol) ∧
      (script.step state p).state.table = state.table.assign target.text value ∧
      script.Uses p term.tokens.length state (script.step state p).state := by
  have step : script.step state p = if (script.assign state p target term.head).continues then
      (script.checkGrammar (script.assign state p target term.head).progress.state p equals
        term.head).after (script.assign state p target term.head).progress.events
      else (script.assign state p target term.head).progress := by
    rw [step_eq_follow ahead before (head_of_stands stands), follow, kind, assigned]
    rfl
  rw [step] at clean ⊢
  cases calls : script.isCallee p with
  | true =>
    rw [continues_assign_of_isCallee calls, if_neg Bool.false_ne_true] at clean ⊢
    exact assign_call_clean calls stands apart accepted clean
  | false =>
    obtain ⟨t, isValue, rfl⟩ := exists_single stands calls
    have assigns : Event.Clean (script.assign state p target t).progress.events := by
      split at clean
      · exact (Event.clean_append.mp clean).1
      · exact clean
    obtain ⟨value, has, found, continues, stored⟩ := assign_single_clean calls isValue accepted assigns
    have goesOn : (script.assign state p target (Term.single t isValue).head).continues = true :=
      continues
    rw [if_pos goesOn, Progress.after_state, Term.head, checkGrammar_behind_equals kind isValue calls,
      State.idle_state, stored]
    exact ⟨value, has, found, rfl, rfl, rfl, by simp [calls]⟩

/-- Noting an operand without a finding notes the callees of its call and nothing else. -/
theorem uses_notingOperand {op : Token} (stands : script.Stands p term.tokens)
    (apart : ∀ t, script.tokens[p + term.tokens.length]? = some t → t.kind ≠ .openParen)
    (clean : Event.Clean (script.operand state.table p op term.head).events) :
    script.Uses p term.tokens.length state
      (state.notingOperand (script.operand state.table p op term.head)) := by
  unfold State.notingOperand
  rcases script.call_operand state.table p op term.head with ⟨single, none, _⟩ | ⟨calls, call, _⟩
  · rw [none]
    exact ⟨rfl, rfl, by simp [single]⟩
  · obtain ⟨closed, resume, _⟩ :=
      evaluate_clean stands calls apart (evaluate_clean_of_operand calls clean)
    rw [call]
    refine ⟨rfl, by simp [State.noting, resume], fun _ => ?_⟩
    exact ⟨state.table, term.head, closed, fun c member => List.mem_append_right _ member⟩

private theorem exists_operand {op current : Token}
    (clean : Event.Clean (script.operand table p op current).events) :
    ∃ read, (script.operand table p op current).operand = some read := by
  cases calls : script.isCallee p with
  | true =>
    obtain ⟨⟨e, closed⟩, alive⟩ := evaluate_closed calls (evaluate_clean_of_operand calls clean)
    simp only [Script.operand, calls, if_true, closed] at clean ⊢
    cases outcome : (script.evaluate table p current).outcome with
    | value value => exact ⟨_, rfl⟩
    | void =>
      rw [outcome] at clean
      exact (Event.not_clean_reported _ _ (Event.clean_append.mp clean).2).elim
    | failed => exact absurd outcome alive
  | false =>
    simp only [Script.operand, calls, Bool.false_eq_true, if_false] at clean ⊢
    cases literal : current.literal? with
    | some value => exact ⟨_, rfl⟩
    | none =>
      simp only [literal] at clean ⊢
      split
      · rename_i notIdentifier
        rw [if_pos notIdentifier] at clean
        exact (Event.not_clean_reported _ _ clean).elim
      · rename_i isIdentifier
        rw [if_neg isIdentifier] at clean
        cases meaning : table.resolve current.text current.scope with
        | visible value => exact ⟨_, rfl⟩
        | hidden | unknown =>
          rw [meaning] at clean
          exact (Event.not_clean_reported _ _ clean).elim

/-- A step behind an operator that finds nothing wrong reads its operand and folds it into the target. -/
theorem step_reads_and_folds {op current named : Token} {operator : Operator} {target : Nat}
    (ahead : state.resume ≤ p) (before : script.before? p 1 = some op)
    (isOperator : op.kind.operator? = some operator) (left : script.hasLeft p = true)
    (here : script.tokens[p]? = some current) (aim : script.foldTarget state p = some target)
    (accepted : target ∉ state.refused) (read : script.tokens[target]? = some named)
    (clean : Event.Clean (script.step state p).events) :
    ∃ operand chain, Event.Clean (script.operand state.table p op current).events ∧
      (script.operand state.table p op current).operand = some operand ∧
      Event.Clean (State.fold { state.notingOperand (script.operand state.table p op current) with chain }
        ⟨p, current⟩ operator op named operand.value).events ∧
      (script.step state p).state =
        (State.fold { state.notingOperand (script.operand state.table p op current) with chain }
          ⟨p, current⟩ operator op named operand.value).state := by
  have step : script.step state p =
      script.useOperand (state.notingOperand (script.operand state.table p op current)) p operator op
        current (script.operand state.table p op current) := by
    rw [step_eq_follow ahead before here, follow, isOperator]
    simp [combine, left]
  rw [step] at clean ⊢
  have evaluated : Event.Clean (script.operand state.table p op current).events := by
    unfold useOperand at clean
    split at clean
    · exact (Event.clean_append.mp clean).1
    · exact clean
  obtain ⟨operand, isOperand⟩ := exists_operand evaluated
  have notes := state.notes_notingOperand (script.operand state.table p op current)
  have same : script.foldTarget (state.notingOperand (script.operand state.table p op current)) p =
      some target := by
    rw [foldTarget_of_notes notes, aim]
  have mayChange : ¬ (state.notingOperand
      (script.operand state.table p op current)).refused.contains target = true := by
    rw [notes.refused]
    simpa using accepted
  simp only [useOperand, isOperand, same, foldAt, if_neg mayChange, read, Progress.after_events,
    Event.clean_append] at clean ⊢
  exact ⟨operand, _, evaluated, rfl, clean.2, rfl⟩

/-- A step behind an operator that finds nothing wrong changes the target by the operand. -/
theorem step_folds {op current named : Token} {operator : Operator} {target : Nat}
    (ahead : state.resume ≤ p) (before : script.before? p 1 = some op)
    (isOperator : op.kind.operator? = some operator) (left : script.hasLeft p = true)
    (here : script.tokens[p]? = some current) (aim : script.foldTarget state p = some target)
    (accepted : target ∉ state.refused) (read : script.tokens[target]? = some named)
    (clean : Event.Clean (script.step state p).events) :
    ∃ operand old result chain, Event.Clean (script.operand state.table p op current).events ∧
      (script.operand state.table p op current).operand = some operand ∧
      state.table.value? named.text = some old ∧
      operator.apply old operand.value = some result ∧
      (script.step state p).state =
        { state.notingOperand (script.operand state.table p op current) with
          table := state.table.update named.text result, chain } := by
  obtain ⟨operand, chain, evaluated, isOperand, folds, folded⟩ :=
    step_reads_and_folds ahead before isOperator left here aim accepted read clean
  have notes := state.notes_notingOperand (script.operand state.table p op current)
  obtain ⟨old, result, stored, applies, changed⟩ := State.fold_clean folds
  rw [notes.table] at stored
  rw [folded, changed, notes.table]
  exact ⟨operand, old, result, chain, evaluated, isOperand, stored, applies, rfl⟩

/-- An operand without a finding is folded into the target of its operator with the value of its term. -/
theorem step_operand {op named : Token} {operator : Operator} {target : Nat} (ahead : state.resume ≤ p)
    (before : script.before? p 1 = some op) (isOperator : op.kind.operator? = some operator)
    (left : script.hasLeft p = true) (aim : script.foldTarget state p = some target)
    (accepted : target ∉ state.refused) (read : script.tokens[target]? = some named)
    (stands : script.Stands p term.tokens)
    (apart : ∀ t, script.tokens[p + term.tokens.length]? = some t → t.kind ≠ .openParen)
    (clean : Event.Clean (script.step state p).events) :
    ∃ value old result, term.value? script.natives state.table = some value ∧
      state.table.value? named.text = some old ∧ operator.apply old value = some result ∧
      (script.step state p).state.table = state.table.update named.text result ∧
      script.Uses p term.tokens.length state (script.step state p).state := by
  obtain ⟨operand, old, result, chain, evaluated, isOperand, stored, applies, folded⟩ :=
    step_folds ahead before isOperator left (head_of_stands stands) aim accepted read clean
  obtain ⟨value, has, same⟩ := operand_clean stands apart evaluated
  have uses := uses_notingOperand stands apart evaluated
  obtain rfl := Option.some.inj (isOperand.symm.trans same)
  rw [folded]
  exact ⟨value, old, result, has, stored, applies, rfl, uses.refused, uses.resume, uses.inside⟩

end Script

end ScriptCheck
