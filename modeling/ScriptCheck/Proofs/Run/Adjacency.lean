import ScriptCheck.Proofs.Run.Braces
import ScriptCheck.Proofs.Run.Faultless

/-! # Which tokens stand next to each other

A script without diagnostics keeps to a table of what may stand directly before a token (`Kind.mayFollow`), with two
exceptions that no rule looks at (`Script.Unguarded`): the token behind a sign, which is an operator that has no left
operand, and a semicolon behind an opening parenthesis or a comma. Whatever stands at these places is not reported,
in any script (`Script.adjacent_of_clean`).
-/

namespace ScriptCheck

/-- Whether a token of the one kind may stand directly behind one of the other. -/
def Kind.mayFollow (current previous : Kind) : Bool :=
  match current with
  | openScope | closeScope | typeInt | typeFloat | typeString => previous.endsStatement
  | semicolon => previous.endsStatement || previous.isValue || previous == closeParen
  | equals => previous.isValue
  | identifier | stringLiteral => !previous.isValue
  | plus | minus | openParen | closeParen | comma => true

namespace Script

variable {script : Script} {state : State} {i : Nat} {previous current : Token}

/-- The position is that of a semicolon directly behind an opening parenthesis or a comma. -/
def EndsOpenList (script : Script) (i : Nat) : Prop :=
  (∃ current ∈ script.tokens[i]?, current.kind = .semicolon) ∧
    ∃ previous ∈ script.before? i 1, previous.kind = .openParen ∨ previous.kind = .comma

instance (script : Script) (i : Nat) : Decidable (script.EndsOpenList i) := inferInstanceAs (Decidable (_ ∧ _))

/-- No rule looks at what stands before the token at the position. -/
def Unguarded (script : Script) (i : Nat) : Prop := script.followsSign i = true ∨ script.EndsOpenList i

instance (script : Script) (i : Nat) : Decidable (script.Unguarded i) := inferInstanceAs (Decidable (_ ∨ _))

/-! ### Rule by rule -/

/-- A value may stand behind whatever is no value. -/
theorem mayFollow_of_isValue (value : current.isValue = true) (notValue : ¬ previous.isValue = true) :
    current.kind.mayFollow previous.kind = true := by
  rcases (by simpa [Token.isValue, Kind.isValue] using value :
    current.kind = .identifier ∨ current.kind = .stringLiteral) with kind | kind <;>
    simpa [Kind.mayFollow, kind, Token.isValue] using notValue

private theorem mayFollow_semicolon_of_clean (kind : current.kind = .semicolon)
    (notOperator : previous.kind.operator? = none)
    (notList : ¬ (previous.kind = .openParen ∨ previous.kind = .comma))
    (clean : Event.Clean (state.endStatement ⟨i, current⟩ previous).events) :
    current.kind.mayFollow previous.kind = true := by
  unfold State.endStatement at clean
  split at clean
  · rename_i allowed
    simpa [kind, Kind.mayFollow, Token.endsOperand, Token.isValue, Bool.or_assoc] using allowed
  rename_i notAllowed
  split at clean
  · exact (Event.not_clean_reported _ _ clean).elim
  rename_i notType
  split at clean
  · exact (Event.not_clean_reported _ _ clean).elim
  · rename_i notEquals
    exfalso
    cases before : previous.kind <;>
      simp_all [Token.isType, Kind.declares?, Kind.operator?, Kind.endsStatement, Kind.isScope, Token.endsOperand,
        Token.isValue, Kind.isValue]

/-- Where the rules of the grammar find nothing wrong, the token may stand behind the one before it. -/
theorem mayFollow_of_clean_checkGrammar (notOperator : previous.kind.operator? = none)
    (notList : ¬ (current.kind = .semicolon ∧ (previous.kind = .openParen ∨ previous.kind = .comma)))
    (clean : Event.Clean (script.checkGrammar state i previous current).events) :
    current.kind.mayFollow previous.kind = true := by
  unfold checkGrammar at clean
  cases kind : current.kind with
  | openScope | closeScope | typeInt | typeFloat | typeString | equals =>
    simp only [kind] at clean
    split at clean
    · assumption
    · exact (Event.not_clean_reported _ _ clean).elim
  | semicolon =>
    simp only [kind] at clean
    rw [← kind]
    exact mayFollow_semicolon_of_clean kind notOperator (fun list => notList ⟨kind, list⟩) clean
  | identifier | stringLiteral =>
    have value : current.isValue = true := by simp [Token.isValue, Kind.isValue, kind]
    simp only [kind, enterValue_eq] at clean
    split at clean
    · exact (Event.not_clean_reported _ _ clean).elim
    · rename_i notValue
      rw [← kind]
      exact mayFollow_of_isValue value notValue
  | plus | minus | openParen | closeParen | comma => rfl

/-- An operator with a left operand is followed by a value, or something is found wrong. -/
theorem isValue_of_clean_combine {operator : Operator} {op : Token} (left : script.hasLeft i = true)
    (read : script.tokens[i]? = some current)
    (clean : Event.Clean (script.combine state i operator op current).events) : current.isValue = true := by
  by_contra notValue
  have reports := operand_of_not_isValue read notValue state.table op
  simp [combine, left, reports, useOperand] at clean

/-- An assignment leaves what is no value to the rules of the grammar, or it finds something wrong. -/
theorem continues_of_clean_assign {target : Token} (read : script.tokens[i]? = some current)
    (notValue : ¬ current.isValue = true)
    (clean : Event.Clean (script.assign state i target current).progress.events) :
    (script.assign state i target current).continues = true := by
  rw [assign, if_neg (not_isCallee_of_not_isValue read notValue), if_pos (by simpa using notValue)] at clean ⊢
  split at clean
  · exact (Event.not_clean_reported _ _ (Event.clean_append.mp clean).2).elim
  · rename_i notMisplaced
    rw [if_neg notMisplaced]

/-- Where a step finds nothing wrong, its token may stand behind the one before it, if any rule looks at that. -/
theorem mayFollow_of_clean_step (ahead : state.resume ≤ i) (before : script.before? i 1 = some previous)
    (read : script.tokens[i]? = some current) (guarded : ¬ script.Unguarded i)
    (clean : Event.Clean (script.step state i).events) : current.kind.mayFollow previous.kind = true := by
  have notList : ¬ (current.kind = .semicolon ∧ (previous.kind = .openParen ∨ previous.kind = .comma)) :=
    fun ⟨semicolon, list⟩ => guarded (.inr ⟨⟨current, read, semicolon⟩, ⟨previous, before, list⟩⟩)
  rw [step_eq_follow ahead before read, follow] at clean
  cases operates : previous.kind.operator? with
  | some operator =>
    have left : script.hasLeft i = true := by
      by_contra lacking
      exact guarded (.inl (by simp [followsSign, before, operates, lacking]))
    have notValue : ¬ previous.isValue = true := by
      cases kind : previous.kind <;> simp [kind, Kind.operator?] at operates <;>
        simp [Token.isValue, Kind.isValue, kind]
    simp only [operates] at clean
    exact mayFollow_of_isValue (isValue_of_clean_combine left read clean) notValue
  | none =>
    simp only [operates] at clean
    split at clean
    · exact mayFollow_of_clean_checkGrammar operates notList clean
    · rename_i target assigned
      have isEquals : previous.kind = .equals := by
        by_contra other
        rw [if_neg other] at assigned
        cases assigned
      by_cases value : current.isValue = true
      · exact mayFollow_of_isValue value (by simp [Token.isValue, Kind.isValue, isEquals])
      · have stops : (script.assign state i target current).continues = true := by
          apply continues_of_clean_assign read value
          split at clean
          · exact (Event.clean_append.mp clean).1
          · exact clean
        rw [if_pos stops] at clean
        exact mayFollow_of_clean_checkGrammar operates notList (Event.clean_append.mp clean).2

/-- At a place that no rule looks at nothing is found wrong. -/
private theorem findings_of_unguarded (unguarded : script.Unguarded i) : (script.step state i).findings = [] := by
  rcases unguarded with signed | ⟨⟨current, read, kind⟩, previous, before, list⟩
  · rw [step_of_followsSign signed]
    rfl
  · by_cases ahead : state.resume ≤ i
    · have notOperator : previous.kind.operator? = none := by
        rcases list with list | list <;> rw [list] <;> rfl
      have notEquals : previous.kind ≠ .equals := by
        rcases list with list | list <;> simp [list]
      rw [step_eq_follow ahead before read, follow_eq_checkGrammar current notOperator notEquals, checkGrammar, kind]
      rcases list with list | list <;>
        simp [State.endStatement, list, Kind.endsStatement, Kind.isScope, Token.endsOperand, Token.isValue,
          Kind.isValue, Token.isType, Kind.declares?, Progress.findings]
    · rw [step_eq_idle fun passes => ahead passes.1]
      rfl

/-! ### Reports -/

/-- A token that is no value is shown by a diagnostic only if the step at the token has found something wrong. -/
theorem span_ne_of_silent {natives : Registry} {source : String} {t : Token}
    (read : (tokenize source)[i]? = some t) (notValue : ¬ t.isValue = true)
    (silent : (Script.progressAt ⟨tokenize source, natives⟩ i).findings = []) :
    ∀ d ∈ (checkSource natives source).diagnostics, d.span ≠ t.span := by
  intro d shown same
  obtain ⟨finding, found, rfl⟩ := List.mem_map.mp shown
  rw [findings_run] at found
  obtain ⟨j, _, atStep⟩ := List.mem_flatMap.mp found
  have located := Script.located_step _ _ j finding atStep
  have position : finding.site.position = i := position_eq_of_span_eq located.read read same
  have token : finding.site.token = t := by simpa [position, read] using located.read.symm
  by_cases own : finding.site.position = j
  · obtain rfl : j = i := own.symm.trans position
    rw [silent] at atStep
    cases atStep
  · exact notValue (token ▸ located.value own)

/-- A script without diagnostics begins with a block or a declaration, and every later token may stand behind the one
before it, apart from places that no rule looks at: directly behind a sign, and a semicolon directly behind an opening
parenthesis or a comma. In no script is a token at such a place reported that is no value. -/
theorem adjacent_of_clean (natives : Registry) (source : String) :
    let script : Script := ⟨tokenize source, natives⟩
    let report := checkSource natives source
    (report.diagnostics = [] →
      (∀ first, script.tokens[0]? = some first → first.kind = .openScope ∨ first.isType = true) ∧
      ∀ i previous current, script.tokens[i]? = some previous → script.tokens[i + 1]? = some current →
        ¬ script.Unguarded (i + 1) → current.kind.mayFollow previous.kind = true) ∧
    ∀ i t, script.tokens[i]? = some t → t.isValue = false → script.Unguarded i →
      ∀ d ∈ report.diagnostics, d.span ≠ t.span := by
  intro script report
  refine ⟨fun clean => ⟨fun first read => begins_of_clean clean read, ?_⟩, ?_⟩
  · intro i previous current before read guarded
    have ahead : (script.stateAt (i + 1)).resume ≤ i + 1 := (faultless_of_clean clean (i + 1)).visits
    exact mayFollow_of_clean_step ahead (by simpa [before?] using before) read guarded (clean_progressAt clean (i + 1))
  · intro i t read notValue unguarded
    exact span_ne_of_silent read (Bool.eq_false_iff.mp notValue) (findings_of_unguarded unguarded)

/-- The second block of a script may begin behind the first one. The semicolon behind the sign and the one behind the
comma would be out of place, and neither is reported. -/
theorem adjacent_between_blocks :
    let source := "\x7b int a = 1 + 2; - ; \x7d \x7b size(\"a\"), ; \x7d"
    let script : Script := ⟨tokenize source, Builtin.registry⟩
    let report := checkSource Builtin.registry source
    let sign : Token := ⟨.semicolon, ";", 1, ⟨1, 1⟩, ⟨19, 20⟩⟩
    let list : Token := ⟨.semicolon, ";", 1, ⟨1, 3⟩, ⟨36, 37⟩⟩
    report.diagnostics = [] ∧ ¬ script.Unguarded 11 ∧ Kind.mayFollow .openScope .closeScope = true ∧
      script.tokens[9]? = some sign ∧ script.Unguarded 9 ∧ (∀ d ∈ report.diagnostics, d.span ≠ sign.span) ∧
      script.tokens[17]? = some list ∧ script.Unguarded 17 ∧ (∀ d ∈ report.diagnostics, d.span ≠ list.span) := by
  intro source script report sign list
  obtain ⟨table, unreported⟩ := adjacent_of_clean Builtin.registry source
  have clean : report.diagnostics = [] := by decide +kernel
  have guarded : ¬ script.Unguarded 11 := by decide +kernel
  have atSign : script.tokens[9]? = some sign := by decide +kernel
  have atList : script.tokens[17]? = some list := by decide +kernel
  have behindSign : script.Unguarded 9 := by decide +kernel
  have behindComma : script.Unguarded 17 := by decide +kernel
  refine ⟨clean, guarded, ?_, atSign, behindSign, unreported 9 sign atSign rfl behindSign, atList, behindComma,
    unreported 17 list atList rfl behindComma⟩
  exact (table clean).2 10 ⟨.closeScope, "\x7d", 1, ⟨0, 2⟩, ⟨21, 22⟩⟩ ⟨.openScope, "\x7b", 1, ⟨1, 3⟩, ⟨23, 24⟩⟩
    (by decide +kernel) (by decide +kernel) guarded

/-- A block that begins directly behind a sign is not reported. -/
theorem misplaced_behind_sign :
    ¬ ∀ (natives : Registry) (source : String), (checkSource natives source).diagnostics = [] →
      ∀ (i : Nat) (previous current : Token), (tokenize source)[i]? = some previous →
        (tokenize source)[i + 1]? = some current → current.kind.mayFollow previous.kind = true := by
  intro always
  have allowed := always Builtin.registry "\x7b + \x7b \x7d \x7d" (by decide +kernel) 1
    ⟨.plus, "+", 1, ⟨1, 1⟩, ⟨2, 3⟩⟩ ⟨.openScope, "\x7b", 1, ⟨2, 2⟩, ⟨4, 5⟩⟩ (by decide +kernel) (by decide +kernel)
  cases allowed

end Script

end ScriptCheck
