import ScriptCheck.Proofs.Scope.Coordinates
import ScriptCheck.Proofs.Statement.Applies
import ScriptCheck.Proofs.Statement.Assignment

/-! # Assignments without a finding

An assignment that applies is checked without a finding (`Script.clean_statement`), so its effect is what the
check has done to the variables behind it (`Script.assignment_applies`). The rules read an operand where its
token stands and the first one where the target stands; in a source text these are the same place, because no
brace stands inside a statement.
-/

namespace ScriptCheck

/-- Nothing was found wrong where nothing happened. -/
theorem Progress.findings_of_idle {progress : Progress} {state : State} (idle : progress = state.idle) :
    progress.findings = [] := by
  rw [idle]
  rfl

/-! ### One level -/

mutual

/-- No brace stands in a term. -/
theorem Term.not_isScope_of_mem (term : Term) {t : Token} (member : t ∈ term.tokens) :
    t.kind.isScope = false := by
  cases term with
  | single u value =>
    obtain rfl := List.mem_singleton.mp member
    cases kind : t.kind <;> simp [Token.isValue, Kind.isValue, kind] at value <;> rfl
  | bare callee name opening close =>
    simp only [Term.tokens, List.mem_cons, List.not_mem_nil, or_false] at member
    rcases member with rfl | rfl | rfl
    · rw [(Token.isName_iff.mp name).1]
      rfl
    · rw [opening.is]
      rfl
    · rw [close.is]
      rfl
  | call callee name opening args close =>
    simp only [Term.tokens, List.mem_cons, List.mem_append, List.not_mem_nil, or_false] at member
    rcases member with rfl | rfl | member | rfl
    · rw [(Token.isName_iff.mp name).1]
      rfl
    · rw [opening.is]
      rfl
    · exact args.not_isScope_of_mem member
    · rw [close.is]
      rfl

theorem Arguments.not_isScope_of_mem (args : Arguments) {t : Token} (member : t ∈ args.tokens) :
    t.kind.isScope = false := by
  cases args with
  | last term => exact term.not_isScope_of_mem member
  | more term comma rest =>
    simp only [Arguments.tokens, List.mem_append, List.mem_cons] at member
    rcases member with member | rfl | member
    · exact term.not_isScope_of_mem member
    · rw [comma.is]
      rfl
    · exact rest.not_isScope_of_mem member

end

/-- No brace stands in a statement behind its target. -/
theorem Assignment.not_isScope_of_mem (statement : Assignment) {t : Token}
    (member : t ∈ statement.equals.token :: statement.source) : t.kind.isScope = false := by
  simp only [source, List.mem_cons, List.mem_append, List.mem_flatMap, Addend.tokens,
    List.not_mem_nil, or_false] at member
  rcases member with rfl | member | ⟨addend, _, rfl | member⟩ | rfl
  · rw [statement.equals.is]
    rfl
  · exact statement.first.not_isScope_of_mem member
  · have operator := addend.is
    cases kind : addend.sign.kind <;> simp [kind, Kind.operator?] at operator <;> rfl
  · exact addend.term.not_isScope_of_mem member
  · rw [statement.semicolon.is]
    rfl

namespace Script

variable {script : Script} {state : State} {p q j e : Nat} {term : Term} {table : Table} {scope : Scope}

/-- The tokens from `q` on and before `e` stand at one coordinate. -/
def Level (script : Script) (q e : Nat) (scope : Scope) : Prop :=
  ∀ k t, q ≤ k → k < e → script.tokens[k]? = some t → t.scope = scope

/-- Tokens of a source without a brace behind the first of them stand at one coordinate. -/
theorem level_of_stands {source : String} {natives : Registry} {t : Token} {ts : List Token}
    (stands : Script.Stands ⟨tokenize source, natives⟩ q (t :: ts))
    (plain : ∀ u ∈ ts, u.kind.isScope = false) :
    Script.Level ⟨tokenize source, natives⟩ q (q + ts.length + 1) t.scope := by
  induction ts generalizing q t with
  | nil =>
    intro k u later within found
    obtain rfl : k = q := by simp only [List.length_nil] at within; omega
    obtain rfl : t = u := by simpa [found] using (stands_cons.mp stands).1.symm
    rfl
  | cons next ts ih =>
    obtain ⟨here, stands⟩ := stands_cons.mp stands
    have level := ih stands fun u member => plain u (List.mem_cons_of_mem _ member)
    rw [scope_getElem?_succ here (stands_cons.mp stands).1 (plain next (List.mem_cons_self ..))] at level
    intro k u later within found
    rcases Nat.eq_or_lt_of_le later with rfl | later
    · obtain rfl : t = u := by simpa [found] using here.symm
      rfl
    · exact level k u later (by rw [List.length_cons] at within; omega) found

/-! ### Operands that have a value -/

/-- A fold into a variable of the operand's type finds nothing wrong if the operator has a result. -/
theorem clean_foldAt {op current named : Token} {operator : Operator} {target : Nat} {old value result : Value}
    (read : script.tokens[target]? = some named)
    (visible : state.table.resolve named.text named.scope = .visible old) (type : old.type = value.type)
    (applies : operator.apply old value = some result) :
    Event.Clean (script.foldAt state p target operator op current value).events := by
  unfold foldAt
  split
  · rfl
  · rw [read]
    dsimp only
    rw [State.fold, visible]
    dsimp only
    rw [if_neg (by simpa using type), applies]
    rfl

/-- An operand that has a value of its target's type is folded into the target without a finding. -/
theorem clean_step_operand {op named : Token} {operator : Operator} {target : Nat} {value : Value}
    (ahead : state.resume ≤ p) (before : script.before? p 1 = some op)
    (isOperator : op.kind.operator? = some operator) (aim : script.foldTarget state p = some target)
    (read : script.tokens[target]? = some named) (stands : script.Stands p term.tokens)
    (apart : ∀ t, script.tokens[p + term.tokens.length]? = some t → t.kind ≠ .openParen)
    (yields : term.Yields script.natives state.table value)
    (holds : state.table.Holds named.text named.scope value.type)
    (joins : ¬ (operator = .minus ∧ value.type = .string)) :
    Event.Clean (script.step state p).events := by
  have clean : Event.Clean (script.operand state.table p op term.head).events :=
    clean_operand_of_yields stands apart yields
  obtain ⟨same, has, isOperand⟩ := operand_clean stands apart clean
  obtain rfl := Option.some.inj (yields.2.symm.trans has)
  obtain ⟨old, visible, type⟩ := holds
  obtain ⟨result, applies⟩ := Operator.exists_apply operator type (by rwa [type])
  have notes := state.notes_notingOperand (script.operand state.table p op term.head)
  rw [step_eq_follow ahead before (head_of_stands stands), follow, isOperator]
  dsimp only
  unfold combine
  split
  · rfl
  · simp only [useOperand, isOperand, foldTarget_of_notes notes, aim]
    rw [Progress.after_events, Event.clean_append]
    refine ⟨clean, clean_foldAt read ?_ type applies⟩
    dsimp only
    rw [notes.table]
    exact visible

section Store

variable {target : Token} {value : Value}
  (holds : state.table.Holds target.text target.scope value.type)
include holds

/-- A value is stored without a finding into a variable of its type. -/
theorem clean_store (site : Site) (mismatch : Problem) :
    Event.Clean (state.store site target.text value mismatch).progress.events := by
  obtain ⟨old, visible, type⟩ := holds
  obtain ⟨symbol, found, _, rfl⟩ := Table.resolve_eq_visible_iff.mp visible
  have same : symbol.type = value.type := type
  rw [State.store, found]
  dsimp only
  rw [if_pos same]
  rfl

/-- A variable that can be reached is a destination, unless its declaration was refused. -/
theorem destination_of_holds (site : Site) (position : Nat) :
    state.destination position target site = (none, []) ∨
      state.destination position target site = (some target.text, []) := by
  obtain ⟨old, visible, _⟩ := holds
  rw [State.destination, visible]
  split
  · exact .inl rfl
  · exact .inr rfl

end Store

/-- The value of a call is stored without a finding into a variable of its type. -/
theorem clean_assign_call {target : Token} {value : Value} (calls : script.isCallee p = true)
    (stands : script.Stands p term.tokens)
    (apart : ∀ t, script.tokens[p + term.tokens.length]? = some t → t.kind ≠ .openParen)
    (yields : term.Yields script.natives state.table value)
    (holds : state.table.Holds target.text target.scope value.type) :
    Event.Clean (script.assign state p target term.head).progress.events := by
  have clean := clean_evaluate stands calls apart yields
  obtain ⟨_, _, outcome⟩ := evaluate_clean stands calls apart clean
  rw [yields.2] at outcome
  simp only [assign, calls, if_true, outcome, Progress.after_events, Event.clean_append]
  rcases destination_of_holds holds ⟨p, term.head⟩ (p - 2) with settled | settled
  · rw [settled]
    exact ⟨⟨rfl, clean⟩, rfl⟩
  · rw [settled]
    have noted : (state.noting (script.evaluate state.table p term.head)).table.Holds target.text target.scope
        value.type := holds
    exact ⟨⟨rfl, clean⟩, clean_store noted ..⟩

/-- A single value is stored without a finding into a variable of its type, and nothing else is left to do. -/
theorem clean_assign_single {t target : Token} {isValue : t.isValue = true} {value : Value}
    (single : script.isCallee p = false) (level : t.scope = target.scope)
    (yields : (Term.single t isValue).Yields script.natives state.table value)
    (holds : state.table.Holds target.text target.scope value.type) :
    Event.Clean (script.assign state p target t).progress.events := by
  have means : source state.table target t = .visible value := by
    obtain ⟨reached, has⟩ := yields
    unfold source
    cases literal : t.literal? with
    | some given =>
      rw [Term.value?, literal, Option.some_or] at has
      rw [Option.some.inj has]
    | none =>
      obtain ⟨given, visible⟩ := reached literal
      rw [Term.value?, literal, Option.none_or, Table.value?_of_visible visible] at has
      rw [← level, ← Option.some.inj has]
      exact visible
  simp only [assign, single, Bool.false_eq_true, if_false, isValue, Bool.not_true]
  split
  · rename_i hidden
    cases means.symm.trans hidden
  · rename_i unknown
    cases means.symm.trans unknown
  · rename_i given visible
    obtain rfl := Resolution.visible.inj (means.symm.trans visible)
    rcases destination_of_holds holds ⟨p, t⟩ (p - 2) with settled | settled
    · rw [settled]
      rfl
    · rw [settled]
      exact clean_store holds ..

/-- The first operand, if it has a value of the target's type, is stored without a finding. -/
theorem clean_step_first {equals target : Token} {value : Value} (ahead : state.resume ≤ p)
    (before : script.before? p 1 = some equals) (kind : equals.kind = .equals)
    (assigned : script.before? p 2 = some target) (stands : script.Stands p term.tokens)
    (apart : ∀ t, script.tokens[p + term.tokens.length]? = some t → t.kind ≠ .openParen)
    (level : term.head.scope = target.scope) (yields : term.Yields script.natives state.table value)
    (holds : state.table.Holds target.text target.scope value.type) :
    Event.Clean (script.step state p).events := by
  rw [step_eq_follow ahead before (head_of_stands stands), follow, kind, if_pos rfl, assigned]
  dsimp only [Kind.operator?]
  cases calls : script.isCallee p with
  | true =>
    rw [continues_assign_of_isCallee calls, if_neg Bool.false_ne_true]
    exact clean_assign_call calls stands apart yields holds
  | false =>
    obtain ⟨t, isValue, rfl⟩ := exists_single stands calls
    have assigns : Event.Clean (script.assign state p target t).progress.events :=
      clean_assign_single calls level yields holds
    split
    · rw [Term.head, checkGrammar_behind_equals kind isValue calls]
      exact Event.clean_append.mpr ⟨assigns, rfl⟩
    · exact assigns

/-! ### The operators of a statement -/

/-- Behind the first token of an operand that has been used, nothing happens. -/
theorem findings_inside (stands : script.Stands p term.tokens) (ahead : (script.stateAt p).resume ≤ p)
    (uses : script.Uses p term.tokens.length (script.stateAt p) (script.stateAt (p + 1))) :
    ∀ i, p < i → i < p + term.tokens.length → (script.progressAt i).findings = [] := by
  intro i behind within
  cases calls : script.isCallee p with
  | false =>
    obtain ⟨t, value, rfl⟩ := exists_single stands calls
    simp only [Term.tokens, List.length_singleton] at within
    omega
  | true =>
    obtain ⟨table, t, closed, noted⟩ := uses.inside calls
    have resume : (script.stateAt (p + 1)).resume ≤ p := by
      rw [uses.resume]
      exact ahead
    have same := stateAt_inside calls closed noted (Nat.le_succ_of_le resume) behind (by omega)
    have idle : script.progressAt i = (script.stateAt (p + 1)).idle := by
      rw [progressAt, same]
      exact step_inside calls closed noted (by omega) behind (by omega)
    exact Progress.findings_of_idle idle

/-- An operator with an operand that has a value of its target's type finds nothing wrong. -/
theorem findings_addend {addend : Addend} {target : Nat} {named : Token} {value : Value}
    (within : script.Within q j table) (sign : script.tokens[j]? = some addend.sign)
    (stands : script.Stands (j + 1) addend.term.tokens)
    (apart : ∀ t, script.tokens[j + 1 + addend.term.tokens.length]? = some t → t.kind ≠ .openParen)
    (left : ∃ t, script.before? j 1 = some t ∧ t.endsOperand = true)
    (aim : script.nearest? 0 j = some target) (reaches : q ≤ target)
    (read : script.tokens[target]? = some named) (behind : q ≤ j)
    (yields : addend.term.Yields script.natives table value)
    (holds : table.Holds named.text named.scope value.type)
    (joins : ¬ (addend.operator = .minus ∧ value.type = .string)) :
    ∀ i, j ≤ i → i < j + 1 + addend.term.tokens.length → (script.progressAt i).findings = [] := by
  have operates : addend.sign.kind.operator?.isSome := by
    rw [addend.is]
    rfl
  obtain ⟨t, before, ends⟩ := left
  have idle := step_separator (Nat.le_trans within.resume behind) before sign ends (.inr operates)
  have here : script.Within q (j + 1) table := within.of_idle idle
  have ahead : (script.stateAt (j + 1)).resume ≤ j + 1 := Nat.le_trans here.resume (by omega)
  have signBefore : script.before? (j + 1) 1 = some addend.sign := by
    simpa [before?] using sign
  have aimHere : script.foldTarget (script.stateAt (j + 1)) (j + 1) = some target := by
    rw [foldTarget_stateAt signBefore operates, nearest?_of_kind sign (.inr operates), aim]
  rw [← here.table_eq] at yields holds
  have clean : Event.Clean (script.step (script.stateAt (j + 1)) (j + 1)).events :=
    clean_step_operand ahead signBefore addend.is aimHere read stands apart yields holds joins
  obtain ⟨_, _, _, _, _, _, _, uses⟩ := step_operand ahead signBefore addend.is
    (by simp [hasLeft, before?_succ, before, ends]) aimHere
    (fun member => absurd (here.refused target member) (by omega)) read stands apart clean
  rw [step_stateAt] at uses
  intro i later within
  rcases Nat.lt_trichotomy i (j + 1) with first | rfl | third
  · obtain rfl : i = j := by omega
    exact Progress.findings_of_idle idle
  · exact clean
  · exact findings_inside stands ahead uses i third within

/-- Operators that apply find nothing wrong. -/
theorem findings_chain {type : ValueType} {rest : List Addend} {semicolon : Mark .semicolon} {target : Nat}
    {named : Token} (within : script.Within q j table)
    (stands : script.Stands j (rest.flatMap Addend.tokens ++ [semicolon.token]))
    (left : ∃ t, script.before? j 1 = some t ∧ t.endsOperand = true)
    (aim : script.nearest? 0 j = some target) (reaches : q ≤ target)
    (read : script.tokens[target]? = some named) (behind : q ≤ j) (level : script.Level q e scope)
    (inside : j + (rest.flatMap Addend.tokens).length ≤ e) (holds : table.Holds named.text scope type)
    (applies : ChainApplies script.natives type rest table named.text) :
    ∀ i, j ≤ i → i < j + (rest.flatMap Addend.tokens).length → (script.progressAt i).findings = [] := by
  induction rest generalizing j table target named with
  | nil =>
    intro i later within
    simp only [List.flatMap_nil, List.length_nil] at within
    omega
  | cons addend rest ih =>
    simp only [List.flatMap_cons, Addend.tokens, List.cons_append, List.append_assoc,
      List.length_cons, List.length_append] at stands inside ⊢
    obtain ⟨atSign, stands⟩ := stands_cons.mp stands
    obtain ⟨atTerm, atRest⟩ := stands_append.mp stands
    obtain ⟨⟨value, yields, rfl⟩, joins, onward⟩ := applies
    have nonempty := addend.term.length_tokens_pos
    have apart := apart_of_stands atRest
    have scopeOf : ∀ {k t}, q ≤ k → k < e → script.tokens[k]? = some t → t.scope = scope :=
      fun later within found => level _ _ later within found
    have atTarget : named.scope = scope :=
      scopeOf reaches (Nat.lt_of_lt_of_le (lt_of_nearest? aim) (by omega)) read
    have first := findings_addend within atSign atTerm apart left aim reaches read behind yields
      (by rw [atTarget]; exact holds) joins
    obtain ⟨middle, last, token, folded, behindTerm, aimNext, reachesNext, readNext, text⟩ :=
      within_addend within atSign atTerm apart left aim reaches read behind
        (first (j + 1) (Nat.le_succ j) (by omega))
    -- The variable that is named last holds a value of the type, whichever it is.
    have holdsNext : middle.Holds token.text scope value.type := by
      rw [text]
      cases isVariable : addend.term.named? with
      | none => exact Addend.holds_fold folded holds holds
      | some name =>
        have own := Term.holds_of_named yields isVariable
        rw [scopeOf (by omega) (by omega) (head_of_stands atTerm)] at own
        exact Addend.holds_fold folded holds own
    have more := ih behindTerm atRest (last_of_stands atTerm) aimNext reachesNext readNext (by omega)
      (by omega) holdsNext (by rw [text]; exact onward middle folded)
    intro i later within
    by_cases early : i < j + 1 + addend.term.tokens.length
    · exact first i later early
    · exact more i (by omega) (by omega)

/-! ### The front of a statement -/

private theorem step_keyword {keyword : Token} (starts : script.StartsStatement p)
    (read : script.tokens[p]? = some keyword) (type : keyword.isType = true) :
    script.step (script.stateAt p) p = (script.stateAt p).idle := by
  have ahead := resume_le_of_startsStatement starts
    (Nat.le_of_lt (List.getElem?_eq_some_iff.mp read).1)
  cases before : script.before? p 1 with
  | none => simp [step, Nat.not_lt.mpr ahead, read, before, State.begin, type]
  | some previous =>
    have ends := starts previous before
    have notEquals : previous.kind ≠ .equals := by
      intro same
      rw [same] at ends
      cases ends
    rw [step_eq_follow ahead before read,
      follow_eq_checkGrammar keyword (Kind.operator?_of_endsStatement ends) notEquals]
    cases kind : keyword.kind <;> simp [Token.isType, Kind.declares?, kind] at type <;>
      simp [checkGrammar, kind, ends]

private theorem step_declared {keyword target equals : Token} {type : ValueType} {larger : Table}
    (ahead : state.resume ≤ p) (before : script.before? p 1 = some keyword)
    (declares : keyword.kind.declares? = some type) (read : script.tokens[p]? = some target)
    (name : target.isName = true) (next : script.tokens[p + 1]? = some equals) (kind : equals.kind = .equals)
    (declared : state.table.declare? target.text type target.scope = some larger) :
    script.step state p = ⟨{ state with table := larger }, [.declared ⟨p, target⟩ type]⟩ := by
  have single : script.isCallee p = false := isCallee_eq_false fun t found => by
    obtain rfl : equals = t := by simpa [next] using found
    simp [kind]
  rw [step_behind_type ahead before declares read (Token.isValue_of_isName name),
    State.declare_new name declared]
  simp [single]

/-- Up to the equal sign of a statement nothing is found wrong, if a declaration is accepted. -/
theorem findings_front {statement : Assignment} {before : Table}
    (stands : script.Stands p statement.tokens) (starts : script.StartsStatement p)
    (first : p = 0 → statement.keyword.isSome = true)
    (declares : statement.declared? (script.stateAt p).table = some before) :
    script.Within (p + statement.keyword.toList.length) (p + statement.keyword.toList.length + 1) before ∧
      ∀ i, p ≤ i → i < p + statement.keyword.toList.length + 1 → (script.progressAt i).findings = [] := by
  obtain ⟨keyword, target, equals, operand, rest, semicolon, type, name⟩ := statement
  cases keyword with
  | none =>
    obtain rfl := Option.some.inj declares
    obtain ⟨read, stands⟩ := stands_cons.mp stands
    obtain ⟨next, _⟩ := stands_cons.mp stands
    have inside := Nat.le_of_lt (List.getElem?_eq_some_iff.mp read).1
    have positive : 1 ≤ p := Nat.pos_of_ne_zero fun zero => by simpa using first zero
    have before : script.before? p 1 = some script.tokens[p - 1] := by
      rw [before?, if_pos positive, List.getElem?_eq_getElem]
    have idle := step_name (resume_le_of_startsStatement starts inside) before (starts _ before) read name
      next equals.is
    have clean : (script.progressAt p).findings = [] := Progress.findings_of_idle idle
    refine ⟨within_name starts read name next equals.is clean, fun i later within => ?_⟩
    simp only [Option.toList_none, List.length_nil] at within
    obtain rfl : i = p := by omega
    exact clean
  | some keyword =>
    obtain ⟨declared, isType, grows⟩ := Option.bind_eq_some_iff.mp declares
    obtain ⟨atKeyword, stands⟩ := stands_cons.mp stands
    obtain ⟨read, stands⟩ := stands_cons.mp stands
    obtain ⟨next, _⟩ := stands_cons.mp stands
    have isKeyword := type keyword rfl
    have idle := step_keyword starts atKeyword isKeyword
    have table : (script.stateAt (p + 1)).table = (script.stateAt p).table := by
      rw [stateAt_succ, progressAt, idle, State.idle_state]
    rw [← table] at grows
    have declaring := step_declared (resume_succ_of_startsStatement starts atKeyword isKeyword)
      (by simpa [before?] using atKeyword) isType read name next equals.is grows
    have clean : (script.progressAt (p + 1)).findings = [] := by
      rw [progressAt, declaring]
      rfl
    have within := within_declared starts atKeyword isKeyword read name next equals.is clean
    have same : (script.stateAt (p + 2)).table = before := by
      rw [stateAt_succ, progressAt, declaring]
    rw [same] at within
    refine ⟨within, fun i later within => ?_⟩
    simp only [Option.toList_some, List.length_singleton] at within
    rcases Nat.eq_or_lt_of_le later with rfl | later
    · exact Progress.findings_of_idle idle
    · obtain rfl : i = p + 1 := by omega
      exact clean

/-- From the equal sign of a statement to behind its first operand nothing is found wrong, if the operand
gives a value that the target can hold. -/
theorem findings_first {target equals : Token} {value : Value} (within : script.Within q (q + 1) table)
    (read : script.tokens[q]? = some target) (name : target.isName = true)
    (next : script.tokens[q + 1]? = some equals) (kind : equals.kind = .equals)
    (stands : script.Stands (q + 2) term.tokens)
    (apart : ∀ t, script.tokens[q + 2 + term.tokens.length]? = some t → t.kind ≠ .openParen)
    (level : term.head.scope = target.scope) (yields : term.Yields script.natives table value)
    (holds : table.Holds target.text target.scope value.type) :
    ∀ i, q + 1 ≤ i → i < q + 2 + term.tokens.length → (script.progressAt i).findings = [] := by
  have targetBefore : script.before? (q + 1) 1 = some target := by
    simpa [before?] using read
  have equalsBefore : script.before? (q + 2) 1 = some equals := by
    simpa [before?] using next
  have idle := step_equals (Nat.le_succ_of_le within.resume) targetBefore next name kind
  have atOperand : script.Within q (q + 2) table := within.of_idle idle
  have ahead : (script.stateAt (q + 2)).resume ≤ q + 2 := Nat.le_trans atOperand.resume (by omega)
  have clean : (script.progressAt (q + 2)).findings = [] := by
    rw [← atOperand.table_eq] at yields holds
    exact clean_step_first ahead equalsBefore kind (before?_succ.trans targetBefore) stands apart level
      yields holds
  obtain ⟨_, _, _, _, uses⟩ := step_first ahead equalsBefore kind (before?_succ.trans targetBefore)
    (fun member => absurd (atOperand.refused _ member) (by omega)) stands apart clean
  rw [step_stateAt] at uses
  intro i later inside
  rcases Nat.eq_or_lt_of_le later with rfl | later
  · exact Progress.findings_of_idle idle
  rcases Nat.eq_or_lt_of_le later with rfl | later
  · exact clean
  · exact findings_inside stands ahead uses i later inside

/-! ### A whole statement -/

/-- A statement on one level that applies is checked without a finding. -/
theorem clean_statement {statement : Assignment} {before : Table}
    (stands : script.Stands p statement.tokens) (starts : script.StartsStatement p)
    (first : p = 0 → statement.keyword.isSome = true)
    (declares : statement.declared? (script.stateAt p).table = some before)
    (level : script.Level (p + statement.keyword.toList.length) (p + statement.tokens.length)
      statement.target.scope)
    (applies : statement.Applies script.natives before) :
    ∀ i, p ≤ i → i < p + statement.tokens.length → (script.progressAt i).findings = [] := by
  obtain ⟨atTarget, front⟩ := findings_front stands starts first declares
  obtain ⟨q, same⟩ : ∃ q, p + statement.keyword.toList.length = q := ⟨_, rfl⟩
  rw [same] at atTarget front level
  have nonempty := statement.first.length_tokens_pos
  have size : p + statement.tokens.length =
      q + 2 + statement.first.tokens.length + (statement.rest.flatMap Addend.tokens).length + 1 := by
    simp only [Assignment.tokens, Assignment.source, List.length_append, List.length_cons,
      List.length_nil]
    omega
  rw [size] at level ⊢
  obtain ⟨_, stands⟩ := stands_append.mp stands
  rw [same] at stands
  obtain ⟨read, stands⟩ := stands_cons.mp stands
  obtain ⟨next, stands⟩ := stands_cons.mp stands
  obtain ⟨atFirst, atRest⟩ := stands_append.mp stands
  obtain ⟨value, yields, holds, chained⟩ := applies
  have apart := apart_of_stands atRest
  have scopeFirst : statement.first.head.scope = statement.target.scope :=
    level _ _ (by omega) (by omega) (head_of_stands atFirst)
  -- The first operand is stored, and the variable that is named last holds a value of its type.
  have cleanFirst := findings_first atTarget read statement.name next statement.equals.is atFirst apart
    scopeFirst yields holds
  obtain ⟨stored, _, last, named, has, _, behindFirst, aim, reaches, readLast, text⟩ :=
    within_first atTarget read statement.name next statement.equals.is atFirst apart
      (cleanFirst (q + 2) (by omega) (by omega))
  obtain rfl := Option.some.inj (has.symm.trans yields.2)
  rw [← text] at chained
  have holdsLast := Term.holds_behind yields scopeFirst holds rfl
  rw [← text] at holdsLast
  -- Each operator then finds the types it combines, up to the semicolon.
  have cleanRest := findings_chain behindFirst atRest (last_of_stands atFirst) aim reaches readLast
    (by omega) level (by omega) holdsLast chained
  obtain ⟨final, _, behindRest, t, ends, isEnd⟩ := within_chain behindFirst atRest
    (last_of_stands atFirst) aim reaches readLast (by omega) cleanRest
  have atEnd := step_separator (Nat.le_trans behindRest.resume (by omega)) ends
    (stands_cons.mp (stands_append.mp atRest).2).1 isEnd (.inl statement.semicolon.is)
  intro i later within
  by_cases inFront : i < q + 1
  · exact front i later inFront
  by_cases inFirst : i < q + 2 + statement.first.tokens.length
  · exact cleanFirst i (by omega) inFirst
  by_cases inRest : i < q + 2 + statement.first.tokens.length +
      (statement.rest.flatMap Addend.tokens).length
  · exact cleanRest i (by omega) inRest
  · obtain rfl : i = q + 2 + statement.first.tokens.length +
        (statement.rest.flatMap Addend.tokens).length := by omega
    exact Progress.findings_of_idle atEnd

/-- A statement of a source that assigns a chain of operands is checked without a finding and has the effect of
its chain, if it begins behind the end of another statement or is an accepted declaration, its target and
the variables among its operands can be reached, every call among them gives a value when its turn comes, all
values have the type of the target, and strings are not subtracted. The effect computes modulo 2 ^ 64 on integers
and joins strings. It initializes the target and no other variable, and changes the values of the variables that
were named last before an operator, and of no others but the target. -/
theorem assignment_applies (source : String) (natives : Registry) {statement : Assignment} {before : Table}
    (stands : Script.Stands ⟨tokenize source, natives⟩ p statement.tokens)
    (starts : Script.StartsStatement ⟨tokenize source, natives⟩ p)
    (first : p = 0 → statement.keyword.isSome = true)
    (declares : statement.declared? (Script.stateAt ⟨tokenize source, natives⟩ p).table = some before)
    (applies : statement.Applies natives before) :
    let script : Script := ⟨tokenize source, natives⟩
    let after := (script.stateAt (p + statement.tokens.length)).table
    (∀ i, p ≤ i → i < p + statement.tokens.length → (script.progressAt i).findings = []) ∧
      statement.effect natives before = some after ∧
      (∀ operator a b c, Operator.apply operator a b = some c ↔ operator.Combines a b c) ∧
      after.initialized? statement.target.text = some true ∧
      (∀ name, name ≠ statement.target.text → after.initialized? name = before.initialized? name) ∧
      ∀ name, name ∉ statement.targets → after.value? name = before.value? name := by
  obtain ⟨front, atTarget⟩ := stands_append.mp stands
  have level := level_of_stands atTarget fun t member => statement.not_isScope_of_mem member
  have reaches : p + statement.keyword.toList.length +
      (statement.equals.token :: statement.source).length + 1 = p + statement.tokens.length := by
    simp only [Assignment.tokens, List.length_append, List.length_cons]
    omega
  rw [reaches] at level
  have clean := clean_statement stands starts first declares level applies
  have effect := (assignment_effect stands starts clean).1
  rw [(findings_front stands starts first declares).1.table_eq] at effect
  obtain ⟨value, _, ⟨old, visible, _⟩, _⟩ := applies
  obtain ⟨symbol, found, _⟩ := Table.resolve_eq_visible_iff.mp visible
  obtain ⟨initialized, flags, values⟩ := Assignment.effect_frame found effect
  exact ⟨clean, effect, fun _ _ _ _ => Operator.apply_eq_some_iff, initialized, flags, values⟩

/-- A script whose second statement changes its first operand twice, the second time behind a call. -/
def turnSource : String := "int m = 20; int n = m + size(\"ab\") - 3;"

def turnStatement : Assignment where
  keyword := some (firstLine .typeInt "int" 12)
  target := firstLine .identifier "n" 16
  equals := ⟨firstLine .equals "=" 18, rfl⟩
  first := .single (firstLine .identifier "m" 20) rfl
  rest := [⟨firstLine .plus "+" 22, .plus, .call (firstLine .identifier "size" 24) (by decide +kernel)
      ⟨firstLine .openParen "(" 28, rfl⟩ (.last (.single (firstLine .stringLiteral "\"ab\"" 29) rfl))
      ⟨firstLine .closeParen ")" 33, rfl⟩, rfl⟩,
    ⟨firstLine .minus "-" 35, .minus, .single (firstLine .identifier "3" 37) rfl, rfl⟩]
  semicolon := ⟨firstLine .semicolon ";" 38, rfl⟩
  type := by decide
  name := by decide +kernel

/-- The variables of `turnSource`, with a value of the first and the second as it is. -/
def turnTable (m : Int64) (n : Symbol) : Table := ⟨[⟨"m", .int m, .outermost, true⟩, n]⟩

private theorem turnStatement_applies :
    turnStatement.Applies Builtin.registry (turnTable 20 (.declared "n" .int .outermost)) := by
  refine ⟨.int 20, ⟨fun _ => ⟨.int 20, by decide +kernel⟩, by decide +kernel⟩,
    ⟨.int 0, by decide +kernel, rfl⟩, ⟨.int 2, ⟨?_, by decide +kernel⟩, rfl⟩, by decide, ?_⟩
  · intro literal
    exact absurd literal (by decide +kernel)
  · intro next folded
    have first : Addend.fold Builtin.registry turnStatement.rest[0]
        (turnTable 20 ⟨"n", .int 20, .outermost, true⟩) "m" =
          some (turnTable 22 ⟨"n", .int 20, .outermost, true⟩) := by
      decide +kernel
    obtain rfl := Option.some.inj (first.symm.trans folded)
    refine ⟨⟨.int 3, ⟨?_, by decide +kernel⟩, rfl⟩, by decide, fun _ _ => trivial⟩
    intro literal
    exact absurd literal (by decide +kernel)

theorem assignment_applies_turns :
    let script : Script := ⟨tokenize turnSource, Builtin.registry⟩
    (∀ i, 5 ≤ i → i < 17 → (script.progressAt i).findings = []) ∧
      (script.stateAt 17).table = turnTable 19 ⟨"n", .int 20, .outermost, true⟩ := by
  have stands : Script.Stands ⟨tokenize turnSource, Builtin.registry⟩ 5 turnStatement.tokens := by
    decide +kernel
  obtain ⟨clean, effect, _⟩ := assignment_applies turnSource Builtin.registry stands (by decide +kernel)
    (by decide) (by decide +kernel) turnStatement_applies
  refine ⟨clean, ?_⟩
  have computes : turnStatement.effect Builtin.registry (turnTable 20 (.declared "n" .int .outermost)) =
      some (turnTable 19 ⟨"n", .int 20, .outermost, true⟩) := by
    decide +kernel
  exact Option.some.inj (effect.symm.trans computes)

end Script

end ScriptCheck
