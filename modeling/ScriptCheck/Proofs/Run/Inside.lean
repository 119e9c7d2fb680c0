import ScriptCheck.Proofs.Run.Calls

/-! # Inside an evaluated call

A call is evaluated when the check comes to its callee, and the check then visits the tokens of its argument
list one by one. Nothing happens there (`Script.step_inside`): the callees among them have been noted, and
nothing else in an argument list asks for anything. So the state behind the call is the state behind its
callee (`Script.stateAt_inside`).
-/

namespace ScriptCheck

namespace Script

variable {script : Script} {state : State} {table : Table} {p e : Nat} {t : Token}

/-- What stands at position `j` is part of an argument list: a parenthesis, a comma, or a value where an
argument begins. -/
def InList (script : Script) (j : Nat) : Prop :=
  ∃ t, script.tokens[j]? = some t ∧
    ((t.kind = .openParen ∨ t.kind = .closeParen ∨ t.kind = .comma) ∨
      t.isValue = true ∧ script.BeginsArgument j)

/-- An argument list stays in its statement. -/
theorem InList.not_endsStatement {j : Nat} (inList : script.InList j) (read : script.tokens[j]? = some t) :
    t.kind.endsStatement = false := by
  obtain ⟨_, same, shape⟩ := inList
  obtain rfl := Option.some.inj (read.symm.trans same)
  rcases shape with (kind | kind | kind) | ⟨value, _⟩
  · simp [kind, Kind.endsStatement, Kind.isScope]
  · simp [kind, Kind.endsStatement, Kind.isScope]
  · simp [kind, Kind.endsStatement, Kind.isScope]
  · exact Token.not_endsStatement_of_isValue value

private theorem inList_readCall (table : Table) {ts : List Token} {position : Nat} {expected : Expected}
    (top : Frame) (below : List Frame) (reads : script.Reads position expected ts) :
    ∀ e, (readCall script.natives table ts position expected top below).close = some e →
      ∀ j, position ≤ j → j ≤ e → script.InList j := by
  have extend : ∀ {position e : Nat}, script.InList position →
      (∀ j, position + 1 ≤ j → j ≤ e → script.InList j) →
        ∀ j, position ≤ j → j ≤ e → script.InList j := by
    intro position e here later j behind within
    rcases Nat.eq_or_lt_of_le behind with rfl | behind
    · exact here
    · exact later j behind within
  refine script.reading_induct table (motive := fun position _ _ _ result =>
    ∀ e, result.close = some e → ∀ j, position ≤ j → j ≤ e → script.InList j) ?giveUp ?opening ?close
    ?closeInner ?comma ?callee ?value top below reads
  case giveUp =>
    intro _ _ _ _ _ _ _ closed
    cases closed
  case opening =>
    intro t _ _ _ _ read kind ih e closed
    exact extend ⟨t, read, .inl (.inl kind)⟩ (ih e closed)
  case close =>
    intro t position _ _ read kind _ e closed j behind within
    obtain rfl : position = e := Option.some.inj closed
    obtain rfl : j = position := by omega
    exact ⟨t, read, .inl (.inr (.inl kind))⟩
  case closeInner =>
    intro t _ _ _ _ _ _ read kind _ ih e closed
    exact extend ⟨t, read, .inl (.inr (.inl kind))⟩ (ih e closed)
  case comma =>
    intro t _ _ _ _ read kind ih e closed
    exact extend ⟨t, read, .inl (.inr (.inr kind))⟩ (ih e closed)
  case callee =>
    intro t _ _ _ _ _ read calls begins _ ih e closed
    have name := isName_of_isCallee calls read
    exact extend ⟨t, read, .inr ⟨Token.isValue_of_isName name, begins⟩⟩ (ih e closed)
  case value =>
    intro t _ _ _ _ _ read value _ begins _ ih e closed
    exact extend ⟨t, read, .inr ⟨value, begins⟩⟩ (ih e closed)

/-- Behind its callee, a call that is closed is an argument list. -/
theorem inList_evaluate (callee : script.isCallee p = true)
    (closed : (script.evaluate table p t).close = some e) {j : Nat} (behind : p < j) (within : j ≤ e) :
    script.InList j := by
  obtain ⟨_, u, _, _, next, kind⟩ := isCallee_iff.mp callee
  rcases Nat.eq_or_lt_of_le behind with rfl | behind
  · exact ⟨u, next, .inl (.inl kind)⟩
  · exact inList_readCall table ⟨⟨p, t⟩, [], true⟩ [] (reads_of_isCallee callee) e closed j behind within

/-- Nothing in an argument list selects the rules of operators, of assignments or of declarations. -/
private theorem passive {t : Token}
    (kind : (t.kind = .openParen ∨ t.kind = .closeParen ∨ t.kind = .comma) ∨ t.isValue = true) :
    t.kind.operator? = none ∧ t.kind ≠ .equals ∧ t.kind.declares? = none := by
  cases same : t.kind <;> simp [same, Token.isValue, Kind.isValue] at kind <;>
    simp [Kind.operator?, Kind.declares?]

/-- Inside a call that has been evaluated, nothing happens. -/
theorem step_inside (callee : script.isCallee p = true)
    (closed : (script.evaluate table p t).close = some e)
    (noted : ∀ c ∈ (script.evaluate table p t).callees, c ∈ state.evaluated) {j : Nat}
    (ahead : state.resume ≤ j) (behind : p < j) (within : j ≤ e) :
    script.step state j = state.idle := by
  obtain ⟨current, read, shape⟩ := inList_evaluate callee closed behind within
  obtain ⟨previous, found, kind⟩ : ∃ previous, script.tokens[j - 1]? = some previous ∧
      ((previous.kind = .openParen ∨ previous.kind = .closeParen ∨ previous.kind = .comma) ∨
        previous.isValue = true) := by
    rcases Nat.eq_or_lt_of_le (show p ≤ j - 1 by omega) with first | later
    · obtain ⟨f, _, atCallee, name, _⟩ := isCallee_iff.mp callee
      exact ⟨f, first ▸ atCallee, .inr (Token.isValue_of_isName name)⟩
    · obtain ⟨previous, found, kind⟩ :=
        inList_evaluate callee closed later (show j - 1 ≤ e by omega)
      exact ⟨previous, found, kind.imp_right And.left⟩
  have before : script.before? j 1 = some previous := by
    rw [before?, if_pos (show 1 ≤ j by omega)]
    exact found
  obtain ⟨notOperator, notEquals, noType⟩ := passive kind
  rw [step_eq_follow ahead before read, follow_eq_checkGrammar current notOperator notEquals]
  rcases shape with (kind | kind | kind) | ⟨value, begins⟩
  · rw [checkGrammar, kind]
  · rw [checkGrammar, kind]
  · rw [checkGrammar, kind]
  · -- The value begins an argument, and if it is a callee it has been noted.
    obtain ⟨u, same, opens⟩ := begins
    obtain rfl : previous = u := by simpa [before] using same
    have notValue : ¬ previous.isValue = true := by
      rcases opens with opens | opens <;> simp [Token.isValue, Kind.isValue, opens]
    rw [checkGrammar_eq_enterValue previous value, enterValue, if_neg notValue, noType]
    dsimp only
    apply if_neg
    simp only [State.idle_state, Bool.and_eq_true, Bool.not_eq_true', not_and]
    intro calls
    have member := noted j (covers_evaluate callee closed behind within calls).1
    simpa using member

/-- The state behind an evaluated call is the state behind its callee. -/
theorem stateAt_inside (callee : script.isCallee p = true)
    (closed : (script.evaluate table p t).close = some e)
    (noted : ∀ c ∈ (script.evaluate table p t).callees, c ∈ (script.stateAt (p + 1)).evaluated)
    (ahead : (script.stateAt (p + 1)).resume ≤ p + 1) {j : Nat} (behind : p < j) (within : j ≤ e + 1) :
    script.stateAt j = script.stateAt (p + 1) := by
  induction j with
  | zero => cases behind
  | succ j ih =>
    rcases Nat.eq_or_lt_of_le (Nat.lt_succ_iff.mp behind) with rfl | later
    · rfl
    · have same := ih later (by omega)
      rw [stateAt_succ, progressAt, same,
        step_inside callee closed noted (by omega) later (by omega), State.idle_state]

end Script

end ScriptCheck
