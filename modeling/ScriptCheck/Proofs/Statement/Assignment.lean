import ScriptCheck.Native.Builtin
import ScriptCheck.Proofs.Run.Clean
import ScriptCheck.Proofs.Run.Inside
import ScriptCheck.Proofs.Run.Nearest
import ScriptCheck.Proofs.Statement.Chain
import ScriptCheck.Proofs.Statement.Start

/-! # What an assignment does

The check passes an assignment token by token and keeps no tree of it. Where it reports nothing on the way, the
variables behind the semicolon are those of `Assignment.effect`: every operator has changed the variable that
was named last before it. A plain assignment therefore stores the value of its operands from left to right.
-/

namespace ScriptCheck

namespace Script

variable {script : Script} {state : State} {p q j : Nat} {term : Term} {table : Table}

/-! ### Tokens that change nothing -/

/-- Behind an operand, an operator and a semicolon only separate. -/
theorem step_separator {previous current : Token} (ahead : state.resume ≤ j)
    (before : script.before? j 1 = some previous) (read : script.tokens[j]? = some current)
    (ends : previous.endsOperand = true)
    (kind : current.kind = .semicolon ∨ current.kind.operator?.isSome) :
    script.step state j = state.idle := by
  have notOperator : previous.kind.operator? = none := by
    rcases Token.endsOperand_iff.mp ends with value | close
    · cases same : previous.kind <;> simp [Token.isValue, Kind.isValue, same] at value <;> rfl
    · rw [close]
      rfl
  have notEquals : previous.kind ≠ .equals := by
    rcases Token.endsOperand_iff.mp ends with value | close
    · intro same
      simp [Token.isValue, Kind.isValue, same] at value
    · simp [close]
  rw [step_eq_follow ahead before read, follow_eq_checkGrammar current notOperator notEquals]
  rcases kind with semicolon | operator
  · rw [checkGrammar, semicolon]
    dsimp only
    rw [State.endStatement, if_pos (by simp [ends])]
  · cases same : current.kind <;> simp [same, Kind.operator?] at operator <;>
      rw [checkGrammar, same]

/-- Behind a name, an equal sign changes nothing. -/
theorem step_equals {previous current : Token} (ahead : state.resume ≤ j)
    (before : script.before? j 1 = some previous) (read : script.tokens[j]? = some current)
    (name : previous.isName = true) (kind : current.kind = .equals) :
    script.step state j = state.idle := by
  have isIdentifier := (Token.isName_iff.mp name).1
  rw [step_eq_follow ahead before read,
    follow_eq_checkGrammar current (by rw [isIdentifier]; rfl) (by simp [isIdentifier]), checkGrammar,
    kind]
  exact if_pos (Token.isValue_of_isName name)

/-- Behind the end of a statement, a name before an equal sign changes nothing. -/
theorem step_name {previous target equals : Token} (ahead : state.resume ≤ p)
    (before : script.before? p 1 = some previous) (ends : previous.kind.endsStatement = true)
    (read : script.tokens[p]? = some target) (name : target.isName = true)
    (next : script.tokens[p + 1]? = some equals) (kind : equals.kind = .equals) :
    script.step state p = state.idle := by
  have single : script.isCallee p = false := isCallee_eq_false fun t found => by
    obtain rfl : equals = t := by simpa [next] using found
    simp [kind]
  have notEquals : previous.kind ≠ .equals := by
    intro same
    rw [same] at ends
    cases ends
  have notValue : ¬ previous.isValue = true := fun value => by
    simp [Token.not_endsStatement_of_isValue value] at ends
  rw [step_eq_follow ahead before read,
    follow_eq_checkGrammar target (Kind.operator?_of_endsStatement ends) notEquals,
    checkGrammar_eq_enterValue previous (Token.isValue_of_isName name), enterValue, if_neg notValue,
    Kind.declares?_of_endsStatement ends]
  simp [single]

/-! ### Between the operands -/

/-- Before position `j` of the statement whose target stands at `q`, the variables are those of `table`, no
token of the statement is skipped and none of its names has been refused. -/
structure Within (script : Script) (q j : Nat) (table : Table) : Prop where
  table_eq : (script.stateAt j).table = table
  resume : (script.stateAt j).resume ≤ q
  refused : ∀ r ∈ (script.stateAt j).refused, r < q

theorem Within.of_idle (within : script.Within q j table)
    (idle : script.step (script.stateAt j) j = (script.stateAt j).idle) :
    script.Within q (j + 1) table := by
  have same : script.stateAt (j + 1) = script.stateAt j := by
    rw [stateAt_succ, progressAt, idle, State.idle_state]
  exact ⟨same ▸ within.table_eq, same ▸ within.resume, same ▸ within.refused⟩

/-- The last token of a term ends an operand. -/
theorem last_of_stands (stands : script.Stands p term.tokens) :
    ∃ t, script.before? (p + term.tokens.length) 1 = some t ∧ t.endsOperand = true := by
  have last : ∀ (front : List Token) (t : Token), script.Stands p (front ++ [t]) →
      script.before? (p + (front ++ [t]).length) 1 = some t := by
    intro front t stands
    have found := (stands_cons.mp (stands_append.mp stands).2).1
    rw [List.length_append, List.length_singleton, before?, if_pos (by omega),
      show p + (front.length + 1) - 1 = p + front.length by omega]
    exact found
  cases term with
  | single t value => exact ⟨t, last [] t stands, Token.endsOperand_iff.mpr (.inl value)⟩
  | bare callee name opening close =>
    exact ⟨close.token, last [callee, opening.token] close.token stands,
      Token.endsOperand_iff.mpr (.inr close.is)⟩
  | call callee name opening args close =>
    exact ⟨close.token, last (callee :: opening.token :: args.tokens) close.token stands,
      Token.endsOperand_iff.mpr (.inr close.is)⟩

/-- Behind an operand that has been used, the state is that behind its first token. -/
theorem within_behind (stands : script.Stands p term.tokens) (behind : q ≤ p)
    (uses : script.Uses p term.tokens.length (script.stateAt p) (script.stateAt (p + 1)))
    (before : script.Within q p table) :
    script.Within q (p + term.tokens.length) (script.stateAt (p + 1)).table := by
  have same : script.stateAt (p + term.tokens.length) = script.stateAt (p + 1) := by
    cases calls : script.isCallee p with
    | false =>
      obtain ⟨t, value, rfl⟩ := exists_single stands calls
      rfl
    | true =>
      obtain ⟨table, t, closed, noted⟩ := uses.inside calls
      have nonempty := term.length_tokens_pos
      refine stateAt_inside calls closed noted ?_ (by omega) (by omega)
      rw [uses.resume]
      exact Nat.le_trans before.resume (by omega)
  refine ⟨by rw [same], ?_, ?_⟩
  · rw [same, uses.resume]
    exact before.resume
  · rw [same, uses.refused]
    exact before.refused

/-- The nearest variable behind an operand is the operand, if it is a variable, or the one before it. -/
theorem nearest?_behind {target : Nat} {named : Token} (stands : script.Stands p term.tokens)
    (apart : ∀ t, script.tokens[p + term.tokens.length]? = some t → t.kind ≠ .openParen)
    (uses : script.Uses p term.tokens.length (script.stateAt p) (script.stateAt (p + 1)))
    (behind : q ≤ p) (reaches : q ≤ target) (aim : script.nearest? 0 p = some target)
    (read : script.tokens[target]? = some named) :
    ∃ last token, script.nearest? 0 (p + term.tokens.length) = some last ∧ q ≤ last ∧
      script.tokens[last]? = some token ∧ token.text = term.named?.getD named.text := by
  cases calls : script.isCallee p with
  | true =>
    obtain ⟨table, t, closed, _⟩ := uses.inside calls
    have nonempty := term.length_tokens_pos
    have across : script.nearest? 0 _ = script.nearest? 0 p := nearest?_evaluate calls closed
    rw [show p + term.tokens.length - 1 + 1 = p + term.tokens.length by omega] at across
    refine ⟨target, named, across.trans aim, reaches, read, ?_⟩
    cases term with
    | single t value =>
      obtain ⟨_, u, _, _, next, opens⟩ := isCallee_iff.mp calls
      exact absurd opens (apart u next)
    | bare callee name opening close => rfl
    | call callee name opening args close => rfl
  | false =>
    obtain ⟨t, value, rfl⟩ := exists_single stands calls
    have found := (stands_cons.mp stands).1
    have scan := nearest?_value found value calls
    rw [aim] at scan
    by_cases name : t.isName = true
    · rw [if_pos name] at scan
      exact ⟨p, t, scan, behind, found, by simp [Term.named?, name]⟩
    · rw [if_neg name] at scan
      exact ⟨target, named, scan, reaches, read, by simp [Term.named?, name]⟩

/-! ### The operators of a statement -/

/-- The token behind an operand is an operator or the semicolon, so the operand is no callee. -/
theorem apart_of_stands {rest : List Addend} {semicolon : Mark .semicolon}
    (stands : script.Stands j (rest.flatMap Addend.tokens ++ [semicolon.token])) :
    ∀ t, script.tokens[j]? = some t → t.kind ≠ .openParen := by
  intro t found kind
  cases rest with
  | nil =>
    obtain rfl : semicolon.token = t := by simpa [found] using (stands_cons.mp stands).1.symm
    simp [semicolon.is] at kind
  | cons addend rest =>
    obtain rfl : addend.sign = t := by simpa [found] using (stands_cons.mp stands).1.symm
    have operator := addend.is
    simp [kind, Kind.operator?] at operator

/-- An operator that finds nothing wrong changes the variable that was named last, and its operand is named
last behind it where it is a variable. -/
theorem within_addend {addend : Addend} {target : Nat} {named : Token}
    (within : script.Within q j table) (sign : script.tokens[j]? = some addend.sign)
    (stands : script.Stands (j + 1) addend.term.tokens)
    (apart : ∀ t, script.tokens[j + 1 + addend.term.tokens.length]? = some t → t.kind ≠ .openParen)
    (left : ∃ t, script.before? j 1 = some t ∧ t.endsOperand = true)
    (aim : script.nearest? 0 j = some target) (reaches : q ≤ target)
    (read : script.tokens[target]? = some named) (behind : q ≤ j)
    (clean : (script.progressAt (j + 1)).findings = []) :
    ∃ next last token, addend.fold script.natives table named.text = some next ∧
      script.Within q (j + 1 + addend.term.tokens.length) next ∧
      script.nearest? 0 (j + 1 + addend.term.tokens.length) = some last ∧ q ≤ last ∧
      script.tokens[last]? = some token ∧ token.text = addend.term.named?.getD named.text := by
  have operates : addend.sign.kind.operator?.isSome := by
    rw [addend.is]
    rfl
  obtain ⟨t, before, ends⟩ := left
  -- The operator itself changes nothing.
  have here : script.Within q (j + 1) table := within.of_idle
    (step_separator (Nat.le_trans within.resume behind) before sign ends (.inr operates))
  have aimHere : script.nearest? 0 (j + 1) = some target :=
    (nearest?_of_kind sign (.inr operates)).trans aim
  have signBefore : script.before? (j + 1) 1 = some addend.sign := by
    simpa [before?] using sign
  -- Its operand is folded into the variable that was named last.
  obtain ⟨value, old, result, has, stored, applies, changed, uses⟩ :=
    step_operand (Nat.le_trans here.resume (by omega)) signBefore addend.is
      (by simp [hasLeft, before?_succ, before, ends])
      ((foldTarget_stateAt signBefore operates).trans aimHere)
      (fun member => absurd (here.refused target member) (by omega)) read stands apart clean
  rw [here.table_eq] at has stored changed
  rw [step_stateAt] at changed uses
  have behindTerm := within_behind stands (by omega) uses here
  rw [changed] at behindTerm
  obtain ⟨last, token, aimNext, reachesNext, readNext, text⟩ :=
    nearest?_behind stands apart uses (by omega) reaches aimHere read
  refine ⟨table.update named.text result, last, token, ?_, behindTerm, aimNext, reachesNext, readNext,
    text⟩
  simp [Addend.fold, has, stored, applies]

/-- Operators that find nothing wrong change the variables as `chain` does. -/
theorem within_chain {rest : List Addend} {semicolon : Mark .semicolon} {target : Nat}
    {named : Token} (within : script.Within q j table)
    (stands : script.Stands j (rest.flatMap Addend.tokens ++ [semicolon.token]))
    (left : ∃ t, script.before? j 1 = some t ∧ t.endsOperand = true)
    (aim : script.nearest? 0 j = some target) (reaches : q ≤ target)
    (read : script.tokens[target]? = some named) (behind : q ≤ j)
    (clean : ∀ i, j ≤ i → i < j + (rest.flatMap Addend.tokens).length →
      (script.progressAt i).findings = []) :
    ∃ next, chain script.natives rest table named.text = some next ∧
      script.Within q (j + (rest.flatMap Addend.tokens).length) next ∧
      ∃ t, script.before? (j + (rest.flatMap Addend.tokens).length) 1 = some t ∧ t.endsOperand = true := by
  induction rest generalizing j table target named with
  | nil => exact ⟨table, rfl, within, left⟩
  | cons addend rest ih =>
    simp only [List.flatMap_cons, Addend.tokens, List.cons_append, List.append_assoc,
      List.length_cons, List.length_append] at stands clean ⊢
    obtain ⟨atSign, stands⟩ := stands_cons.mp stands
    obtain ⟨atTerm, atRest⟩ := stands_append.mp stands
    have nonempty := addend.term.length_tokens_pos
    obtain ⟨middle, last, token, folded, behindTerm, aimNext, reachesNext, readNext, text⟩ :=
      within_addend within atSign atTerm (apart_of_stands atRest) left aim reaches read behind
        (clean (j + 1) (by omega) (by omega))
    obtain ⟨next, effect, final⟩ := ih behindTerm atRest (last_of_stands atTerm) aimNext reachesNext
      readNext (by omega) fun i later within => clean i (by omega) (by omega)
    refine ⟨next, ?_, ?_⟩
    · rw [chain, folded, Option.bind_some, ← text]
      exact effect
    · rw [show j + (addend.term.tokens.length + (rest.flatMap Addend.tokens).length + 1) =
        j + 1 + addend.term.tokens.length + (rest.flatMap Addend.tokens).length by omega]
      exact final

/-! ### The target of a statement -/

/-- A statement that begins with a name and goes on with an equal sign changes nothing up to there. -/
theorem within_name {target equals : Token} (starts : script.StartsStatement p)
    (read : script.tokens[p]? = some target) (name : target.isName = true)
    (next : script.tokens[p + 1]? = some equals) (kind : equals.kind = .equals)
    (clean : (script.progressAt p).findings = []) :
    script.Within p (p + 1) (script.stateAt p).table := by
  have ahead := resume_le_of_startsStatement starts
    (Nat.le_of_lt (List.getElem?_eq_some_iff.mp read).1)
  refine Within.of_idle ⟨rfl, ahead, script.lt_of_mem_refused p⟩ ?_
  cases before : script.before? p 1 with
  | none =>
    have isIdentifier := (Token.isName_iff.mp name).1
    rw [progressAt, step, if_neg (Nat.not_lt.mpr ahead), read, before] at clean
    simp [State.begin, isIdentifier, Token.isType, Kind.declares?] at clean
    exact (Event.not_clean_reported _ _ clean).elim
  | some previous => exact step_name ahead before (starts previous before) read name next kind

/-- A declaration that finds nothing wrong has declared its name. -/
theorem within_declared {keyword target equals : Token} (starts : script.StartsStatement p)
    (declares : script.tokens[p]? = some keyword) (type : keyword.isType = true)
    (read : script.tokens[p + 1]? = some target) (name : target.isName = true)
    (next : script.tokens[p + 2]? = some equals) (kind : equals.kind = .equals)
    (clean : (script.progressAt (p + 1)).findings = []) :
    script.Within (p + 1) (p + 2) (script.stateAt (p + 2)).table := by
  obtain ⟨_, declaresType⟩ := Option.isSome_iff_exists.mp type
  have ahead := resume_succ_of_startsStatement starts declares type
  have single : script.isCallee (p + 1) = false := isCallee_eq_false fun t found => by
    obtain rfl : equals = t := by simpa [next] using found
    simp [kind]
  have step := step_behind_type ahead (by simpa [before?] using declares) declaresType read
    (Token.isValue_of_isName name)
  simp only [single, Bool.false_and, Bool.false_eq_true, if_false] at step
  rw [progressAt, step] at clean
  obtain ⟨larger, declared⟩ := State.declare_clean clean
  have state : script.stateAt (p + 2) = { script.stateAt (p + 1) with table := larger } := by
    rw [stateAt_succ, progressAt, step, declared]
  rw [state]
  refine ⟨by rw [state], by rw [state]; exact ahead, ?_⟩
  rw [state]
  exact script.lt_of_mem_refused (p + 1)

private theorem within_target {statement : Assignment} (stands : script.Stands p statement.tokens)
    (starts : script.StartsStatement p)
    (clean : ∀ i, p ≤ i → i < p + statement.tokens.length → (script.progressAt i).findings = []) :
    script.Within (p + statement.keyword.toList.length) (p + statement.keyword.toList.length + 1)
      (script.stateAt (p + statement.keyword.toList.length + 1)).table := by
  obtain ⟨keyword, target, equals, first, rest, semicolon, type, name⟩ := statement
  cases keyword with
  | none =>
    obtain ⟨read, stands⟩ := stands_cons.mp stands
    obtain ⟨next, _⟩ := stands_cons.mp stands
    have within := within_name starts read name next equals.is
      (clean p (Nat.le_refl p) (by simp [Assignment.tokens]))
    exact ⟨rfl, within.resume, within.refused⟩
  | some keyword =>
    obtain ⟨declares, stands⟩ := stands_cons.mp stands
    obtain ⟨read, stands⟩ := stands_cons.mp stands
    obtain ⟨next, _⟩ := stands_cons.mp stands
    exact within_declared starts declares (type keyword rfl) read name next equals.is
      (clean (p + 1) (Nat.le_succ p) (by simp [Assignment.tokens]))

/-- The first operand is stored into the target, and is named last behind it where it is a variable. -/
theorem within_first {target equals : Token} (within : script.Within q (q + 1) table)
    (read : script.tokens[q]? = some target) (name : target.isName = true)
    (next : script.tokens[q + 1]? = some equals) (kind : equals.kind = .equals)
    (stands : script.Stands (q + 2) term.tokens)
    (apart : ∀ t, script.tokens[q + 2 + term.tokens.length]? = some t → t.kind ≠ .openParen)
    (clean : (script.progressAt (q + 2)).findings = []) :
    ∃ value symbol last named, term.value? script.natives table = some value ∧
      table.find? target.text = some symbol ∧
      script.Within q (q + 2 + term.tokens.length) (table.assign target.text value) ∧
      script.nearest? 0 (q + 2 + term.tokens.length) = some last ∧ q ≤ last ∧
      script.tokens[last]? = some named ∧ named.text = term.named?.getD target.text := by
  have targetBefore : script.before? (q + 1) 1 = some target := by
    simpa [before?] using read
  have equalsBefore : script.before? (q + 2) 1 = some equals := by
    simpa [before?] using next
  have atOperand : script.Within q (q + 2) table :=
    within.of_idle (step_equals (Nat.le_succ_of_le within.resume) targetBefore next name kind)
  obtain ⟨value, has, ⟨symbol, found⟩, stored, uses⟩ :=
    step_first (Nat.le_trans atOperand.resume (by omega)) equalsBefore kind
      (before?_succ.trans targetBefore) (fun member => absurd (atOperand.refused _ member) (by omega))
      stands apart clean
  rw [atOperand.table_eq] at has found stored
  rw [step_stateAt] at stored uses
  have behind := within_behind stands (by omega) uses atOperand
  rw [stored] at behind
  have single : script.isCallee q = false := by
    apply isCallee_eq_false
    intro t found
    obtain rfl : equals = t := by simpa [next] using found
    simp [kind]
  have aim : script.nearest? 0 (q + 2) = some q := by
    rw [nearest?_of_kind next (.inl kind), nearest?_value read (Token.isValue_of_isName name) single,
      if_pos name]
  obtain ⟨last, named, aimBehind, reaches, readLast, text⟩ :=
    nearest?_behind stands apart uses (by omega) (Nat.le_refl q) aim read
  exact ⟨value, symbol, last, named, has, found, behind, aimBehind, reaches, readLast, text⟩

/-! ### A whole statement -/

/-- An assignment that finds nothing wrong has the effect of its chain: from the variables before its equal
sign to those behind its semicolon. Where it is plain, its target then has the value of its operands from
left to right, all of them read before the equal sign, and no other variable has changed. -/
theorem assignment_effect {statement : Assignment} (stands : script.Stands p statement.tokens)
    (starts : script.StartsStatement p)
    (clean : ∀ i, p ≤ i → i < p + statement.tokens.length → (script.progressAt i).findings = []) :
    let before := (script.stateAt (p + statement.keyword.toList.length + 1)).table
    let after := (script.stateAt (p + statement.tokens.length)).table
    statement.effect script.natives before = some after ∧
      (statement.Plain → ∃ result, statement.result? script.natives before = some result ∧
        after.value? statement.target.text = some result ∧
        ∀ name, name ≠ statement.target.text → after.find? name = before.find? name) := by
  have atTarget := within_target stands starts clean
  obtain ⟨q, same⟩ : ∃ q, p + statement.keyword.toList.length = q := ⟨_, rfl⟩
  rw [same] at atTarget ⊢
  have nonempty := statement.first.length_tokens_pos
  have size : p + statement.tokens.length =
      q + 2 + statement.first.tokens.length + (statement.rest.flatMap Addend.tokens).length + 1 := by
    simp only [Assignment.tokens, Assignment.source, List.length_append, List.length_cons,
      List.length_nil]
    omega
  rw [size] at clean ⊢
  obtain ⟨_, stands⟩ := stands_append.mp stands
  rw [same] at stands
  obtain ⟨read, stands⟩ := stands_cons.mp stands
  obtain ⟨next, stands⟩ := stands_cons.mp stands
  obtain ⟨atFirst, atRest⟩ := stands_append.mp stands
  obtain ⟨value, symbol, last, named, has, found, behindFirst, aim, reaches, readLast, text⟩ :=
    within_first atTarget read statement.name next statement.equals.is atFirst
      (apart_of_stands atRest) (clean (q + 2) (by omega) (by omega))
  obtain ⟨final, effect, behindRest, t, ends, isEnd⟩ := within_chain behindFirst atRest
    (last_of_stands atFirst) aim reaches readLast (by omega)
    fun i later within => clean i (by omega) (by omega)
  -- The semicolon changes nothing.
  have atEnd := behindRest.of_idle (step_separator (Nat.le_trans behindRest.resume (by omega)) ends
    (stands_cons.mp (stands_append.mp atRest).2).1 isEnd (.inl statement.semicolon.is))
  rw [atEnd.table_eq]
  have whole : statement.effect script.natives (script.stateAt (q + 1)).table = some final := by
    rw [text] at effect
    simp [Assignment.effect, has, effect]
  refine ⟨whole, fun plain => ?_⟩
  obtain ⟨result, computes, rfl⟩ := Assignment.effect_plain plain whole
  refine ⟨result, computes, ?_, fun name different => Table.find?_assign_ne result different⟩
  rw [Table.value?_assign_self, Table.value?, found]
  rfl

/-! ### A plain chain and an aliased one -/

/-- A token on the first line of a script, outside of all blocks. -/
def firstLine (kind : Kind) (text : String) (start : Nat) : Token :=
  ⟨kind, text, 1, .outermost, ⟨start, start + text.utf8ByteSize⟩⟩

/-- A script whose second statement computes from left to right. -/
def plainScript : Script :=
  ⟨tokenize "int a = 2; int b = size(\"ab\") + 3 - a;", Builtin.registry⟩

def plainStatement : Assignment where
  keyword := some (firstLine .typeInt "int" 11)
  target := firstLine .identifier "b" 15
  equals := ⟨firstLine .equals "=" 17, rfl⟩
  first := .call (firstLine .identifier "size" 19) (by decide +kernel) ⟨firstLine .openParen "(" 23, rfl⟩
    (.last (.single (firstLine .stringLiteral "\"ab\"" 24) rfl)) ⟨firstLine .closeParen ")" 28, rfl⟩
  rest := [⟨firstLine .plus "+" 30, .plus, .single (firstLine .identifier "3" 32) rfl, rfl⟩,
    ⟨firstLine .minus "-" 34, .minus, .single (firstLine .identifier "a" 36) rfl, rfl⟩]
  semicolon := ⟨firstLine .semicolon ";" 37, rfl⟩
  type := by decide
  name := by decide +kernel

theorem assignment_effect_plain :
    (plainScript.stateAt 17).table.value? "b" = some (.int 3) ∧
      (plainScript.stateAt 17).table.find? "a" = (plainScript.stateAt 7).table.find? "a" := by
  have stands : plainScript.Stands 5 plainStatement.tokens := by decide +kernel
  have clean : ∀ i < 17, 5 ≤ i → (plainScript.progressAt i).findings = [] := by decide +kernel
  obtain ⟨_, stores⟩ := assignment_effect stands (by decide +kernel)
    fun i behind within => clean i within behind
  have plain : plainStatement.Plain := ⟨by decide +kernel, by decide +kernel, by decide +kernel⟩
  obtain ⟨result, computes, stored, others⟩ := stores plain
  have three : plainStatement.result? plainScript.natives (plainScript.stateAt 7).table =
      some (.int 3) := by
    decide +kernel
  obtain rfl := Option.some.inj (computes.symm.trans three)
  exact ⟨stored, others "a" (by decide)⟩

/-- A script whose second statement changes the operand before its operator. -/
def aliasScript : Script := ⟨tokenize "int a = 2; int b = a + 1;", Builtin.registry⟩

def aliasStatement : Assignment where
  keyword := some (firstLine .typeInt "int" 11)
  target := firstLine .identifier "b" 15
  equals := ⟨firstLine .equals "=" 17, rfl⟩
  first := .single (firstLine .identifier "a" 19) rfl
  rest := [⟨firstLine .plus "+" 21, .plus, .single (firstLine .identifier "1" 23) rfl, rfl⟩]
  semicolon := ⟨firstLine .semicolon ";" 24, rfl⟩
  type := by decide
  name := by decide +kernel

/-- Nothing is found wrong, and yet the target keeps its first operand, while that operand is changed. -/
theorem assignment_not_leftToRight :
    aliasScript.Stands 5 aliasStatement.tokens ∧ aliasScript.StartsStatement 5 ∧
      aliasScript.report.diagnostics = [] ∧
      aliasStatement.result? aliasScript.natives (aliasScript.stateAt 7).table = some (.int 3) ∧
      (aliasScript.stateAt 12).table.value? "b" = some (.int 2) ∧
      (aliasScript.stateAt 7).table.value? "a" = some (.int 2) ∧
      (aliasScript.stateAt 12).table.value? "a" = some (.int 3) := by
  decide +kernel

end Script

end ScriptCheck
