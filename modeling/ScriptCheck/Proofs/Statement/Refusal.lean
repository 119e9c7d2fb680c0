import ScriptCheck.Proofs.Run.Reporting
import ScriptCheck.Proofs.Statement.Assignment
import ScriptCheck.Proofs.Statement.Redeclaration

/-! # Refused assignments

An assignment is refused where the token behind its equal sign comes to no value of the target's type. This is
reported and nothing is stored (`Script.step_refused`). But it is not remembered: an operator further on in the
statement looks for its nearest variable all the same, and where that is the target, the operand is folded into
the value that was there before the statement. A refused assignment leaves its target alone exactly as far as no
operator does so (`Script.refused_assignment_keeps`).
-/

namespace ScriptCheck

private theorem State.not_clean_store {state : State} {site : Site} {name : String} {symbol : Symbol} {value : Value}
    {mismatch : Problem} (found : state.table.find? name = some symbol)
    (differs : value.type ≠ symbol.type) :
    ¬ Event.Clean (state.store site name value mismatch).progress.events := by
  unfold store
  rw [found]
  dsimp only
  rw [if_neg (Ne.symm differs)]
  exact Event.not_clean_reported _ _

namespace Script

variable {script : Script} {state : State} {i q e : Nat} {x current : Token} {symbol : Symbol}

/-- The token `current` at position `i`, behind the equal sign of `target`, comes to no value of the type. -/
inductive Refuses (script : Script) (table : Table) (i : Nat) (target current : Token) (type : ValueType) :
    Prop
  /-- It is a mark or a type keyword. -/
  | mark (single : script.isCallee i = false) (noValue : current.isValue = false)
  /-- It is a literal or a variable of another type, or a name that does not exist or cannot be reached. -/
  | value (single : script.isCallee i = false) (isValue : current.isValue = true)
      (differs : ∀ value, source table target current = .visible value → value.type ≠ type)
  /-- It is a call that fails, returns nothing or returns a value of another type. -/
  | call (callee : script.isCallee i = true)
      (differs : ∀ value, (script.evaluate table i current).outcome = .value value → value.type ≠ type)

/-- Behind an equal sign the rules of the grammar report every token that is no value, unless it is part of
an expression: these the assignment itself reports. -/
theorem not_clean_checkGrammar_behind_equals {equals : Token} (kind : equals.kind = .equals)
    (noValue : current.isValue = false) (plain : current.kind.isMisplacedSource = false) :
    ¬ Event.Clean (script.checkGrammar state i equals current).events := by
  unfold checkGrammar
  cases same : current.kind with
  | plus | minus | openParen | closeParen | comma => simp [same, Kind.isMisplacedSource] at plain
  | identifier | stringLiteral => simp [same, Token.isValue, Kind.isValue] at noValue
  | openScope | closeScope | typeInt | typeFloat | typeString =>
    simp [kind, Kind.endsStatement, Kind.isScope]
  | semicolon =>
    simp [State.endStatement, kind, Kind.endsStatement, Kind.isScope, Token.endsOperand, Token.isValue,
      Kind.isValue, Token.isType, Kind.declares?]
  | equals => simp [Token.isValue, Kind.isValue, kind]

private theorem not_clean_assign {target : Token} (accepted : i - 2 ∉ state.refused)
    (found : state.table.find? target.text = some symbol)
    (isSource : current.isValue = true ∨ current.kind.isMisplacedSource = true)
    (refuses : script.Refuses state.table i target current symbol.type) :
    ¬ Event.Clean (script.assign state i target current).progress.events := by
  intro clean
  cases refuses with
  | mark single noValue =>
    have misplaced := isSource.resolve_left (by simp [noValue])
    simp only [assign, single, Bool.false_eq_true, if_false, noValue, Bool.not_false, if_true, misplaced] at clean
    exact Event.not_clean_reported _ _ (Event.clean_append.mp clean).2
  | value single isValue differs =>
    simp only [assign, single, Bool.false_eq_true, if_false, isValue, Bool.not_true] at clean
    split at clean
    · exact Event.not_clean_reported _ _ (Event.clean_append.mp clean).2
    · exact Event.not_clean_reported _ _ (Event.clean_append.mp clean).2
    · rename_i value means
      have destined : Event.Clean (state.destination (i - 2) target ⟨i, current⟩).2 := by
        split at clean
        · exact clean
        · exact (Event.clean_append.mp clean).1
      obtain ⟨_, settled⟩ := State.destination_clean accepted destined
      simp only [settled] at clean
      exact State.not_clean_store found (differs value means) (Event.clean_append.mp clean).2
  | call callee differs =>
    simp only [assign, callee, if_true, Progress.after_events, Event.clean_append] at clean
    obtain ⟨⟨destined, evaluated⟩, stored⟩ := clean
    obtain ⟨_, settled⟩ := State.destination_clean accepted destined
    have alive := (clean_evaluate_iff callee).mp evaluated
    simp only [settled] at stored
    cases outcome : (script.evaluate state.table i current).outcome with
    | failed => exact alive outcome
    | void =>
      rw [outcome] at stored
      exact Event.not_clean_reported _ _ stored
    | value value =>
      rw [outcome] at stored
      exact State.not_clean_store (by exact found) (differs value outcome) stored

/-- A step behind an equal sign that refuses to assign reports it. -/
theorem not_clean_step_of_refuses {equals target : Token} (ahead : state.resume ≤ i)
    (before : script.before? i 1 = some equals) (kind : equals.kind = .equals)
    (assigned : script.before? i 2 = some target) (read : script.tokens[i]? = some current)
    (accepted : i - 2 ∉ state.refused) (found : state.table.find? target.text = some symbol)
    (refuses : script.Refuses state.table i target current symbol.type) :
    ¬ Event.Clean (script.step state i).events := by
  rw [step_eq_follow ahead before read, follow, kind, if_pos rfl, assigned]
  dsimp only [Kind.operator?]
  by_cases isSource : current.isValue = true ∨ current.kind.isMisplacedSource = true
  · have reported := not_clean_assign accepted found isSource refuses
    split
    · intro clean
      exact reported (Event.clean_append.mp clean).1
    · exact reported
  · simp only [not_or, Bool.not_eq_true] at isSource
    obtain ⟨noValue, plain⟩ := isSource
    have single : script.isCallee i = false := by
      cases refuses with
      | mark single => exact single
      | value single => exact single
      | call callee =>
        simp [Token.isValue_of_isName (isName_of_isCallee callee read)] at noValue
    have continues : (script.assign state i target current).continues = true := by
      simp [assign, single, noValue, plain]
    rw [if_pos continues]
    intro clean
    exact not_clean_checkGrammar_behind_equals kind noValue plain (Event.clean_append.mp clean).2

/-! ### A statement that assigns -/

/-- A statement assigns to the name `x` at position `q`: it begins with the name, or with a type keyword before
it, and an equal sign stands behind the name. -/
structure AssignsTo (script : Script) (q : Nat) (x : Token) : Prop where
  named : script.tokens[q]? = some x
  name : x.isName = true
  equals : ∃ t, script.tokens[q + 1]? = some t ∧ t.kind = .equals
  begins : script.StartsStatement q ∨ ∃ p keyword, q = p + 1 ∧ script.StartsStatement p ∧
    script.tokens[p]? = some keyword ∧ keyword.isType = true

/-- Where no callee stands, no tokens are given up. -/
theorem resume_stateAt_succ (single : script.isCallee i = false) :
    (script.stateAt (i + 1)).resume = (script.stateAt i).resume := by
  rw [stateAt_succ, progressAt]
  cases script.calls_step (script.stateAt i) i with
  | none _ _ resume => exact resume
  | call _ _ _ callee => simp [callee] at single

namespace AssignsTo

variable (assigns : script.AssignsTo q x)
include assigns

private theorem before_source : script.before? (q + 2) 2 = some x := by
  simpa [before?] using assigns.named

/-- Up to the token behind the equal sign no token of the statement is skipped. -/
theorem resume_le : (script.stateAt (q + 1)).resume ≤ q ∧ (script.stateAt (q + 2)).resume ≤ q := by
  obtain ⟨equals, next, kind⟩ := assigns.equals
  have notTarget : script.isCallee q = false := isCallee_eq_false fun t found => by
    obtain rfl : equals = t := by simpa [next] using found
    simp [kind]
  have notEquals : script.isCallee (q + 1) = false := by
    apply Bool.eq_false_iff.mpr
    exact not_isCallee_of_kind next (by simp [kind])
  have atTarget : (script.stateAt q).resume ≤ q := by
    rcases assigns.begins with starts | ⟨p, keyword, rfl, starts, read, type⟩
    · exact resume_le_of_startsStatement starts
        (Nat.le_of_lt (List.getElem?_eq_some_iff.mp assigns.named).1)
    · exact resume_succ_of_startsStatement starts read type
  rw [resume_stateAt_succ notEquals, resume_stateAt_succ notTarget]
  exact ⟨atTarget, atTarget⟩

private theorem stateAt_source : script.stateAt (q + 2) = script.stateAt (q + 1) := by
  obtain ⟨equals, next, kind⟩ := assigns.equals
  have idle := step_equals (Nat.le_succ_of_le assigns.resume_le.1)
    (by simpa [before?] using assigns.named) next assigns.name kind
  rw [stateAt_succ, progressAt, idle, State.idle_state]

end AssignsTo

/-- A refused assignment keeps the variable: its target was found, so the step reports something, or its
declaration was refused before, so the step stores nothing. -/
theorem find?_behind_refused (assigns : script.AssignsTo q x)
    (read : script.tokens[q + 2]? = some current)
    (declared : (script.stateAt (q + 1)).table.find? x.text = some symbol)
    (refuses : script.Refuses (script.stateAt (q + 1)).table (q + 2) x current symbol.type) :
    (q ∉ (script.stateAt (q + 1)).refused → (script.progressAt (q + 2)).findings ≠ []) ∧
      (script.stateAt (q + 3)).table.find? x.text = some symbol := by
  obtain ⟨equals, next, kind⟩ := assigns.equals
  have before : script.before? (q + 2) 1 = some equals := by
    simpa [before?] using next
  rw [← assigns.stateAt_source] at declared refuses ⊢
  have reports : q ∉ (script.stateAt (q + 2)).refused →
      (script.progressAt (q + 2)).findings ≠ [] := by
    intro accepted
    exact not_clean_step_of_refuses (Nat.le_trans assigns.resume_le.2 (Nat.le_add_right q 2)) before kind
      assigns.before_source read accepted declared refuses
  refine ⟨reports, ?_⟩
  rw [stateAt_succ]
  by_cases accepted : q ∈ (script.stateAt (q + 2)).refused
  · have stores : ¬ script.StoresInto (q + 2) x.text := by
      rintro ⟨_, _, _, _, _, notRefused, _⟩
      exact notRefused accepted
    obtain ⟨kept, found, _, _, _, same⟩ := find?_progressAt declared stores
    rw [found, same]
    simp [alters, before, kind, Kind.operator?]
  · cases script.touches_step (script.stateAt (q + 2)) (q + 2) with
    | keeps same =>
      rw [progressAt, same]
      exact declared
    | adds added => exact Table.find?_declare added declared
    | changes _ _ clean => exact absurd clean (reports accepted)

private theorem not_storesInto {k : Nat} (plain : ∀ t ∈ (script.tokens.take e).drop k, t.kind ≠ .equals)
    (name : String) : ∀ j, k < j → j < e → ¬ script.StoresInto j name := by
  rintro j later within ⟨equals, _, before, kind, _, _, _⟩
  rw [before?, if_pos (show 1 ≤ j by omega)] at before
  refine plain equals (List.mem_of_getElem? (i := j - 1 - k) ?_) kind
  rw [List.getElem?_drop, Nat.add_sub_cancel' (by omega), List.getElem?_take_of_lt (by omega)]
  exact before

/-- A refused assignment is reported, and it keeps the type, the place and the initialized flag of its target, up
to every later position as long as nothing else is stored into the target. The value is kept too unless an
operator alters it, and an operator that alters it and finds nothing wrong has folded its operand into it. -/
theorem refused_assignment_keeps (assigns : script.AssignsTo q x)
    (read : script.tokens[q + 2]? = some current)
    (declared : (script.stateAt (q + 1)).table.find? x.text = some symbol)
    (refuses : script.Refuses (script.stateAt (q + 1)).table (q + 2) x current symbol.type)
    (later : q + 3 ≤ e) (alone : ∀ j, q + 3 ≤ j → j < e → ¬ script.StoresInto j x.text) :
    (q ∉ (script.stateAt (q + 1)).refused → (script.progressAt (q + 2)).findings ≠ []) ∧
      ∃ kept, (script.stateAt e).table.find? x.text = some kept ∧ kept.type = symbol.type ∧
        kept.scope = symbol.scope ∧ kept.initialized = symbol.initialized ∧
        ((∀ i < e, q + 3 ≤ i → script.alters i x.text = false) → kept = symbol) ∧
        ∀ i < e, q + 3 ≤ i → script.alters i x.text = true →
          (script.progressAt i).findings = [] → script.FoldsInto i x.text := by
  obtain ⟨reports, behind⟩ := find?_behind_refused assigns read declared refuses
  obtain ⟨kept, found, type, scope, initialized, value⟩ := find?_stateAt later behind alone
  exact ⟨reports, kept, found, type, scope, initialized, value, fun _ _ _ => foldsInto_of_alters⟩

/-- A script with an assignment that a sign behind the equal sign makes fail. -/
def leadingMinus : Script := ⟨tokenize "int x = 1; x = - 5;", Builtin.registry⟩

theorem leadingMinus_keeps :
    (leadingMinus.progressAt 7).findings ≠ [] ∧
      (leadingMinus.stateAt 10).table.find? "x" = some ⟨"x", .int 1, ⟨0, 0⟩, true⟩ := by
  have assigns : leadingMinus.AssignsTo 5 (firstLine .identifier "x" 11) :=
    ⟨by decide +kernel, by decide +kernel, ⟨firstLine .equals "=" 13, by decide +kernel, rfl⟩,
      .inl (by decide +kernel)⟩
  have read : leadingMinus.tokens[7]? = some (firstLine .minus "-" 15) := by decide +kernel
  have declared : (leadingMinus.stateAt 6).table.find? "x" = some ⟨"x", .int 1, ⟨0, 0⟩, true⟩ := by
    decide +kernel
  obtain ⟨reports, kept, found, _, _, _, same, _⟩ := refused_assignment_keeps (e := 10) assigns read declared
    (.mark (by decide +kernel) (by decide)) (by decide) (not_storesInto (by decide +kernel) _)
  refine ⟨reports (by decide +kernel), found.trans ?_⟩
  rw [same (by decide +kernel)]

/-- A refused assignment changes its target all the same when an operator stands behind what was refused: the
operator finds no other variable, and folds its operand into the value from before the statement. -/
theorem refused_assignment_changes :
    let script : Script := ⟨tokenize "int x = 1; x = \"a\" + 2;", Builtin.registry⟩
    (script.stateAt 6).table.find? "x" = some ⟨"x", .int 1, ⟨0, 0⟩, true⟩ ∧
      (script.progressAt 7).findings.map Finding.problem = [.sourceType (.literal "a") "x"] ∧
      (script.stateAt 11).table.find? "x" = some ⟨"x", .int 3, ⟨0, 0⟩, true⟩ := by
  decide +kernel

end Script

end ScriptCheck
