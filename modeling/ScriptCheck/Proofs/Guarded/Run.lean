import ScriptCheck.Proofs.Guarded.Call
import ScriptCheck.Proofs.Run.Calls
import ScriptCheck.Proofs.Run.Nearest

/-! # Checking a script by position

The rules of a check look at the token of their position, at up to two before it and one behind it, back for the
nearest variable, and at the variable that a chain remembers. Here every rule reads these tokens by position, where a
token that is not there is a fault, and evaluates calls by descent. No script makes such a check look outside, and as
much fuel as there are tokens brings it to the end, with the result of the check itself (`Script.guardedRun_total`).
-/

namespace ScriptCheck

/-! ### The rules with their calls set apart -/

def OperandResult.ofCall (site : Site) (call : CallResult) : OperandResult :=
  match call.outcome, call.close with
  | .value value, some last => { operand := some ⟨value, last⟩, call, events := call.events }
  | .void, _ =>
    { operand := none, call
      events := call.events ++ [.reported ⟨site, .voidOperand site.token.text⟩] }
  | _, _ => { operand := none, call, events := call.events }

/-- What an operand that is a single token comes to. -/
def Table.operand (table : Table) (site : Site) (op : Token) : OperandResult :=
  match site.token.literal? with
  | some value => { operand := some ⟨value, site.position⟩ }
  | none =>
    if site.token.kind ≠ .identifier then
      { operand := none, events := [.reported ⟨site, .adjacent op.text site.token.text⟩] }
    else match table.resolve site.token.text site.token.scope with
      | .visible value => { operand := some ⟨value, site.position⟩ }
      | .hidden => { operand := none, events := [.reported ⟨site, .hidden site.token.text⟩] }
      | .unknown => { operand := none, events := [.reported ⟨site, .unknownOperand site.token.text⟩] }

namespace State

/-- Stores what a call came to, behind an equal sign. -/
def assignCall (state : State) (site : Site) (settled : Option String × List Event) (call : CallResult) : Ruling :=
  let state := state.noting call
  let stored := match settled.1 with
    | some name => state.storeOutcome site name call.outcome
    | none => state.idle
  ⟨stored.after (settled.2 ++ call.events), false⟩

def assignToken (state : State) (site : Site) (settled : Option String × List Event) (target : Token) : Ruling :=
  let current := site.token
  if !current.isValue then
    if current.kind.isMisplacedSource then
      ⟨(state.report site (.unknownSource current.text target.text)).after settled.2, false⟩
    else ⟨⟨state, settled.2⟩, true⟩
  else
    let source : Resolution := match current.literal? with
      | some value => .visible value
      | none => state.table.resolve current.text target.scope
    match source with
    | .hidden => ⟨(state.report site (.hidden current.text)).after settled.2, false⟩
    | .unknown =>
      ⟨(state.report site (.unknownSource current.text target.text)).after settled.2, true⟩
    | .visible value =>
      match settled.1 with
      | none => ⟨⟨state, settled.2⟩, true⟩
      | some name =>
        let stored := state.store site name value (.sourceType current.asSource name)
        { stored with progress := stored.progress.after settled.2 }

end State

namespace Script

private theorem operand_eq (script : Script) (table : Table) (i : Nat) (op current : Token) :
    script.operand table i op current =
      if script.isCallee i then .ofCall ⟨i, current⟩ (script.evaluate table i current)
      else table.operand ⟨i, current⟩ op := rfl

private theorem assign_eq (script : Script) (state : State) (i : Nat) (target current : Token) :
    script.assign state i target current =
      let settled := state.destination (i - 2) target ⟨i, current⟩
      if script.isCallee i then state.assignCall ⟨i, current⟩ settled (script.evaluate state.table i current)
      else state.assignToken ⟨i, current⟩ settled target := rfl

/-! ### The rules by position -/

/-- The token some positions back, which has to be inside the script. -/
def tokenBack (script : Script) (i back : Nat) : Except Fault Token :=
  if back ≤ i then script.tokenAt (i - back) else .error (.outside ((i : Int) - back))

/-- The token some positions back, unless the script begins behind it. -/
def tokenBefore (script : Script) (i back : Nat) : Except Fault (Option Token) :=
  if back ≤ i then do
    let t ← script.tokenAt (i - back)
    .ok (some t)
  else .ok none

def guardedNearest (script : Script) (depth : Nat) : Nat → Except Fault (Option Nat)
  | 0 => .ok none
  | j + 1 => do
    let t ← script.tokenAt j
    if t.kind.endsStatement then .ok none
    else if t.kind = .closeParen then script.guardedNearest (depth + 1) j
    else if t.kind = .openParen then
      if depth = 0 then .ok none else script.guardedNearest (depth - 1) j
    else if t.kind = .comma ∧ depth = 0 then .ok none
    else if depth = 0 ∧ t.isName then do
      if ← script.calleeAt j then script.guardedNearest depth j else .ok (some j)
    else script.guardedNearest depth j

def guardedTarget (script : Script) (state : State) (i : Nat) : Except Fault (Option Nat) :=
  match state.chain with
  | some chain => if chain.last + 2 = i then .ok (some chain.target) else script.guardedNearest 0 i
  | none => script.guardedNearest 0 i

def guardedOperand (script : Script) (fuel : Nat) (table : Table) (i : Nat) (op current : Token) :
    Except Fault OperandResult := do
  if ← script.calleeAt i then
    let call ← script.guardedCall table fuel i
    .ok (.ofCall ⟨i, current⟩ call)
  else .ok (table.operand ⟨i, current⟩ op)

def guardedFold (script : Script) (state : State) (i target : Nat) (operator : Operator) (op current : Token)
    (value : Value) : Except Fault Progress :=
  if state.refused.contains target then .ok state.idle
  else do
    let left ← script.tokenAt target
    .ok (state.fold ⟨i, current⟩ operator op left value)

def guardedUse (script : Script) (state : State) (i : Nat) (operator : Operator) (op current : Token)
    (read : OperandResult) : Except Fault Progress :=
  match read.operand with
  | none => .ok ⟨state, read.events⟩
  | some operand => do
    match ← script.guardedTarget state i with
    | none => .ok ⟨state, read.events⟩
    | some target =>
      let next := if operand.last = i && current.isName then i else target
      let state := { state with chain := some ⟨operand.last, next⟩ }
      let folded ← script.guardedFold state i target operator op current operand.value
      .ok (folded.after read.events)

def guardedCombine (script : Script) (fuel : Nat) (state : State) (i : Nat) (operator : Operator) :
    Except Fault Progress := do
  let op ← script.tokenBack i 1
  let current ← script.tokenAt i
  let left ← script.tokenBefore i 2
  if left.any Token.endsOperand then
    let read ← script.guardedOperand fuel state.table i op current
    script.guardedUse (state.notingOperand read) i operator op current read
  else .ok state.idle

def guardedAssign (script : Script) (fuel : Nat) (state : State) (i : Nat) : Except Fault Ruling := do
  let current ← script.tokenAt i
  let target ← script.tokenBack i 2
  let settled := state.destination (i - 2) target ⟨i, current⟩
  if ← script.calleeAt i then
    let call ← script.guardedCall state.table fuel i
    .ok (state.assignCall ⟨i, current⟩ settled call)
  else .ok (state.assignToken ⟨i, current⟩ settled target)

def guardedFresh (script : Script) (fuel : Nat) (i : Nat) (declared : Progress) : Except Fault Progress := do
  let callee ← script.calleeAt i
  if callee && !declared.state.evaluated.contains i then
    let call ← script.guardedCall declared.state.table fuel i
    .ok ⟨declared.state.noting call, declared.events ++ call.events⟩
  else .ok declared

/-- A value may not follow a value. After a type keyword it is declared, and a call is evaluated. -/
def guardedValue (script : Script) (fuel : Nat) (state : State) (i : Nat) (previous : Token) :
    Except Fault Progress := do
  let current ← script.tokenAt i
  if previous.isValue then .ok (state.report ⟨i, current⟩ (.adjacent previous.text current.text))
  else
    script.guardedFresh fuel i (match previous.kind.declares? with
      | some type => state.declare ⟨i, current⟩ type
      | none => state.idle)

/-- What may stand before position `i`. Only the rule for values reads more tokens. -/
def guardedGrammar (script : Script) (fuel : Nat) (state : State) (i : Nat) (previous : Token) :
    Except Fault Progress := do
  let current ← script.tokenAt i
  if current.isValue then script.guardedValue fuel state i previous
  else .ok (script.checkGrammar state i previous current)

def guardedFollow (script : Script) (fuel : Nat) (state : State) (i : Nat) (previous : Token) :
    Except Fault Progress :=
  match previous.kind.operator? with
  | some operator => script.guardedCombine fuel state i operator
  | none =>
    if previous.kind = .equals ∧ 2 ≤ i then do
      let ruling ← script.guardedAssign fuel state i
      if ruling.continues then
        let progress ← script.guardedGrammar fuel ruling.progress.state i previous
        .ok (progress.after ruling.progress.events)
      else .ok ruling.progress
    else script.guardedGrammar fuel state i previous

def guardedStep (script : Script) (fuel : Nat) (state : State) (i : Nat) : Except Fault Progress :=
  if i < state.resume then .ok state.idle
  else do
    let current ← script.tokenAt i
    match ← script.tokenBefore i 1 with
    | none => .ok (state.begin ⟨i, current⟩)
    | some previous => script.guardedFollow fuel state i previous

def guardedSteps (script : Script) (fuel : Nat) (state : State) : List Nat → Except Fault Progress
  | [] => .ok state.idle
  | i :: rest => do
    let progress ← script.guardedStep fuel state i
    let later ← script.guardedSteps fuel progress.state rest
    .ok (later.after progress.events)

/-- Checks a script from its first token to its last. -/
def guardedRun (script : Script) (fuel : Nat) : Except Fault Progress :=
  script.guardedSteps fuel {} (List.range script.size)

variable {script : Script} {state : State} {fuel i j : Nat} {t current previous : Token}

/-! ### Every token that is read is there -/

private theorem tokenBack_eq {back : Nat} (before : script.before? i back = some t) :
    script.tokenBack i back = .ok t := by
  unfold before? at before
  split at before
  next reaches => rw [tokenBack, if_pos reaches, tokenAt_eq before]
  next => cases before

private theorem tokenBefore_eq (inside : i < script.size) (back : Nat) :
    script.tokenBefore i back = .ok (script.before? i back) := by
  unfold tokenBefore before?
  split
  next =>
    have read := List.getElem?_eq_getElem (Nat.lt_of_le_of_lt (Nat.sub_le i back) inside)
    rw [tokenAt_eq read, read]
    rfl
  next => rfl

private theorem guardedNearest_eq (inside : i ≤ script.size) (depth : Nat) :
    script.guardedNearest depth i = .ok (script.nearest? depth i) := by
  induction i generalizing depth with
  | zero => rfl
  | succ j ih =>
    have earlier : ∀ depth, script.guardedNearest depth j = .ok (script.nearest? depth j) :=
      ih (Nat.le_of_succ_le inside)
    obtain ⟨t, read⟩ : ∃ t, script.tokens[j]? = some t := ⟨_, List.getElem?_eq_getElem inside⟩
    rw [guardedNearest, tokenAt_eq read, nearest?, read]
    dsimp only [bind, Except.bind]
    by_cases ends : t.kind.endsStatement = true
    · rw [if_pos ends, if_pos ends]
    rw [if_neg ends, if_neg ends]
    by_cases closes : t.kind = .closeParen
    · rw [if_pos closes, if_pos closes, earlier]
    rw [if_neg closes, if_neg closes]
    by_cases opens : t.kind = .openParen
    · rw [if_pos opens, if_pos opens, earlier]
      split <;> rfl
    rw [if_neg opens, if_neg opens]
    by_cases comma : t.kind = .comma ∧ depth = 0
    · rw [if_pos comma, if_pos comma]
    rw [if_neg comma, if_neg comma, earlier, calleeAt_eq read]
    cases callee : script.isCallee j with
    | true => simp
    | false =>
      by_cases name : depth = 0 ∧ t.isName = true
      · simp [name]
      · rw [if_neg name, if_neg fun found => name ⟨found.1, found.2.1⟩]

private theorem guardedTarget_eq (inside : i ≤ script.size) :
    script.guardedTarget state i = .ok (script.foldTarget state i) := by
  rw [guardedTarget, foldTarget]
  cases state.chain with
  | none => exact guardedNearest_eq inside 0
  | some chain =>
    dsimp only
    split
    · rfl
    · exact guardedNearest_eq inside 0

/-! ### The rules by position follow the rules -/

private theorem settles_call (table : Table) (callee : script.isCallee i = true)
    (read : script.tokens[i]? = some current) :
    Settles (script.size ≤ fuel) (script.evaluate table i current) (script.guardedCall table fuel i) :=
  ((script.settles_guarded table fuel).1 i current callee read).mono fun enough => Nat.le_add_right_of_le enough

private theorem settles_operand (table : Table) (op : Token) (read : script.tokens[i]? = some current) :
    Settles (script.size ≤ fuel) (script.operand table i op current)
      (script.guardedOperand fuel table i op current) := by
  rw [guardedOperand, calleeAt_eq read, operand_eq]
  cases callee : script.isCallee i with
  | true => exact (settles_call table callee read).bind .reached
  | false => exact .reached

private theorem settles_fold (state : State) {target : Nat} {op : Token} (operator : Operator) (value : Value)
    (inside : target < script.size) :
    Settles (script.size ≤ fuel) (script.foldAt state i target operator op current value)
      (script.guardedFold state i target operator op current value) := by
  have left := List.getElem?_eq_getElem (l := script.tokens) inside
  rw [guardedFold, foldAt, tokenAt_eq left, left]
  cases state.refused.contains target with
  | true => exact .reached
  | false => exact .reached

private theorem settles_use {op : Token} (operator : Operator) (read : OperandResult) (inside : i ≤ script.size)
    (aimed : ∀ target, script.foldTarget state i = some target → target < script.size) :
    Settles (script.size ≤ fuel) (script.useOperand state i operator op current read)
      (script.guardedUse state i operator op current read) := by
  rw [useOperand, guardedUse, guardedTarget_eq inside]
  cases read.operand with
  | none => exact .reached
  | some operand =>
    cases aim : script.foldTarget state i with
    | none => exact .reached
    | some target =>
      exact Settles.bind .reached ((settles_fold _ operator operand.value (aimed target aim)).bind .reached)

private theorem settles_combine {op : Token} (operator : Operator) (agrees : script.ChainAgrees state)
    (before : script.before? i 1 = some op) (kind : op.kind.operator? = some operator)
    (read : script.tokens[i]? = some current) :
    Settles (script.size ≤ fuel) (script.combine state i operator op current)
      (script.guardedCombine fuel state i operator) := by
  have inside : i < script.size := (List.getElem?_eq_some_iff.mp read).1
  rw [guardedCombine, tokenBack_eq before, tokenAt_eq read, tokenBefore_eq inside, combine, hasLeft]
  refine Settles.bind .reached (Settles.bind .reached (Settles.bind .reached ?_))
  cases (script.before? i 2).any Token.endsOperand with
  | false => exact .reached
  | true =>
    refine (settles_operand state.table op read).bind (settles_use operator _ (Nat.le_of_lt inside) ?_)
    -- A chain remembers what looking back finds, and that is before position `i`.
    intro target aim
    rw [foldTarget_of_notes (State.notes_notingOperand ..), agrees.foldTarget before (by rw [kind]; rfl)] at aim
    exact Nat.lt_trans (lt_of_nearest? aim) inside

private theorem settles_assign {target : Token} (before : script.before? i 2 = some target)
    (read : script.tokens[i]? = some current) :
    Settles (script.size ≤ fuel) (script.assign state i target current) (script.guardedAssign fuel state i) := by
  rw [guardedAssign, tokenAt_eq read, tokenBack_eq before, calleeAt_eq read, assign_eq]
  refine Settles.bind .reached (Settles.bind .reached (Settles.bind .reached ?_))
  dsimp only
  cases callee : script.isCallee i with
  | true => exact (settles_call state.table callee read).bind .reached
  | false => exact .reached

private theorem settles_fresh (read : script.tokens[i]? = some current) (declared : Progress) :
    Settles (script.size ≤ fuel) (script.evaluateFresh i current declared) (script.guardedFresh fuel i declared) := by
  rw [guardedFresh, calleeAt_eq read, evaluateFresh]
  refine Settles.bind .reached ?_
  cases callee : script.isCallee i with
  | false => exact .reached
  | true =>
    cases declared.state.evaluated.contains i with
    | true => exact .reached
    | false => exact (settles_call declared.state.table callee read).bind .reached

private theorem settles_value (read : script.tokens[i]? = some current) :
    Settles (script.size ≤ fuel) (script.enterValue state i previous current)
      (script.guardedValue fuel state i previous) := by
  rw [guardedValue, tokenAt_eq read, enterValue_eq]
  refine Settles.bind .reached ?_
  cases previous.isValue with
  | true => exact .reached
  | false => exact settles_fresh read _

private theorem settles_grammar (read : script.tokens[i]? = some current) :
    Settles (script.size ≤ fuel) (script.checkGrammar state i previous current)
      (script.guardedGrammar fuel state i previous) := by
  rw [guardedGrammar, tokenAt_eq read]
  refine Settles.bind .reached ?_
  split
  next value =>
    rw [checkGrammar_eq_enterValue previous value]
    exact settles_value read
  next => exact .reached

private theorem settles_follow (agrees : script.ChainAgrees state) (before : script.before? i 1 = some previous)
    (read : script.tokens[i]? = some current) :
    Settles (script.size ≤ fuel) (script.follow state i previous current)
      (script.guardedFollow fuel state i previous) := by
  rw [guardedFollow, follow]
  cases kind : previous.kind.operator? with
  | some operator => exact settles_combine operator agrees before kind read
  | none =>
    by_cases assigns : previous.kind = .equals ∧ 2 ≤ i
    · have inside : i < script.tokens.length := (List.getElem?_eq_some_iff.mp read).1
      obtain ⟨target, two⟩ : ∃ target, script.before? i 2 = some target := by
        rw [before?, if_pos assigns.2]
        exact ⟨_, List.getElem?_eq_getElem (Nat.lt_of_le_of_lt (Nat.sub_le i 2) inside)⟩
      dsimp only
      rw [if_pos assigns, if_pos assigns.1, two]
      refine (settles_assign two read).bind ?_
      dsimp only
      cases (script.assign state i target current).continues with
      | true => exact (settles_grammar read).bind .reached
      | false => exact .reached
    · -- An equal sign that begins the script has nothing before it to be stored into.
      have first : (if previous.kind = .equals then script.before? i 2 else none) = none := by
        split
        next equals => rw [before?, if_neg fun reaches => assigns ⟨equals, reaches⟩]
        next => rfl
      dsimp only
      rw [if_neg assigns, first]
      exact settles_grammar read

private theorem settles_step (agrees : script.ChainAgrees state) (inside : i < script.size) :
    Settles (script.size ≤ fuel) (script.step state i) (script.guardedStep fuel state i) := by
  obtain ⟨current, read⟩ : ∃ current, script.tokens[i]? = some current := ⟨_, List.getElem?_eq_getElem inside⟩
  rw [guardedStep, step]
  split
  · exact .reached
  · rw [tokenAt_eq read, tokenBefore_eq inside, read]
    refine Settles.bind .reached (Settles.bind .reached ?_)
    cases before : script.before? i 1 with
    | none => exact .reached
    | some previous => exact settles_follow agrees before read

private theorem settles_steps (agrees : script.ChainAgrees state) (positions : List Nat)
    (inside : ∀ i ∈ positions, i < script.size) :
    Settles (script.size ≤ fuel) (script.steps state positions) (script.guardedSteps fuel state positions) := by
  induction positions generalizing state with
  | nil => exact .reached
  | cons i rest ih =>
    have later := ih (agrees.step i) fun k member => inside k (List.mem_cons_of_mem i member)
    exact (settles_step agrees (inside i (List.mem_cons_self ..))).bind (later.bind .reached)

/-- With any fuel, a check by position follows the check as far as it goes. -/
theorem settles_run (script : Script) (fuel : Nat) :
    Settles (script.size ≤ fuel) script.run (script.guardedRun fuel) :=
  settles_steps (script.chainAgrees_stateAt 0) _ fun _ member => List.mem_range.mp member

/-! ### The check as a whole -/

/-- A call that is evaluated by position comes to what the reader of calls comes to, behind its opening parenthesis and
inside the script, or is given up inside the script. -/
theorem reached_guardedCall {table : Table} {p : Nat} {result : CallResult} (callee : script.isCallee p = true)
    (ok : script.guardedCall table fuel p = .ok result) : script.Reached (p + 2) result := by
  obtain ⟨t, _, read, _, _, _⟩ := isCallee_iff.mp callee
  rw [((script.settles_guarded table fuel).1 p t callee read).eq_of_ok ok]
  exact reached_evaluate table t callee

/-- The loop over the arguments needs as much fuel as there are tokens from its position on, and one more to see the
end of the script. -/
theorem guardedArguments_ends (table : Table) (frame : Frame) (begins : script.BeginsArgument j)
    (inside : j ≤ script.size) (enough : script.size < fuel + j) :
    ∃ result, script.guardedArguments table fuel frame j = .ok result ∧ script.Reached j result := by
  have reads : script.Reads j .argument (script.tokens.drop j) := ⟨rfl, by simp, fun _ => begins⟩
  exact ⟨_, ((script.settles_guarded table fuel).2 frame j reads inside).eq_ok enough,
    reached_readCall table frame [] reads inside⟩

/-- No call that is given up has the check go on behind the script. -/
theorem resume_stateAt_le_size (script : Script) (i : Nat) : (script.stateAt i).resume ≤ script.size := by
  refine script.stateAt_induct (motive := fun _ state => state.resume ≤ script.size) (Nat.zero_le _) ?_ i
  intro i ih
  rcases script.calls_step (script.stateAt i) i with ⟨_, _, same⟩ | ⟨t, table, _, calls, _, _, _, resume⟩
  · rw [progressAt, same]
    exact ih
  · rw [progressAt, resume]
    exact Nat.max_le.mpr ⟨ih, (reached_evaluate table t calls).resume_le⟩

/-- Whatever the tokens and the functions are, a check by position comes to its end with as much fuel as there are
tokens, is the check, and never reads a token outside of the script. Every call that is closed is closed behind its
opening parenthesis and inside the script, so the fuel that a call or a loop over arguments needs is bounded by the
tokens from its position on. No position behind the script is skipped to. -/
theorem guardedRun_total (script : Script) :
    (∀ fuel, script.size ≤ fuel → script.guardedRun fuel = .ok script.run) ∧
    (∀ fuel position, script.guardedRun fuel ≠ .error (.outside position)) ∧
    (∀ table fuel p, script.isCallee p = true →
      (script.size ≤ fuel + p → ∃ result, script.guardedCall table fuel p = .ok result) ∧
      (∀ position, script.guardedCall table fuel p ≠ .error (.outside position)) ∧
      ∀ result, script.guardedCall table fuel p = .ok result →
        (∀ e, result.close = some e → p + 2 ≤ e ∧ e < script.size) ∧ result.resume ≤ script.size) ∧
    (∀ table fuel frame j, script.BeginsArgument j → j ≤ script.size → script.size < fuel + j →
      ∃ result, script.guardedArguments table fuel frame j = .ok result ∧
        (∀ e, result.close = some e → j ≤ e ∧ e < script.size) ∧ result.resume ≤ script.size) ∧
    ∀ i, (script.stateAt i).resume ≤ script.size := by
  refine ⟨fun fuel enough => (script.settles_run fuel).eq_ok enough,
    fun fuel position => (script.settles_run fuel).ne_outside position, ?calls, ?arguments,
    script.resume_stateAt_le_size⟩
  case calls =>
    intro table fuel p callee
    obtain ⟨t, _, read, _, _, _⟩ := isCallee_iff.mp callee
    have settles := (script.settles_guarded table fuel).1 p t callee read
    refine ⟨fun enough => ⟨_, settles.eq_ok enough⟩, fun position => settles.ne_outside position, ?_⟩
    intro result ok
    have reached := reached_guardedCall callee ok
    exact ⟨fun _ => reached.within, reached.resume_le⟩
  case arguments =>
    intro table fuel frame j begins inside enough
    obtain ⟨result, ok, reached⟩ := guardedArguments_ends table frame begins inside enough
    exact ⟨result, ok, fun _ => reached.within, reached.resume_le⟩

/-- A script that breaks off inside the second of two nested calls is checked to its end. The first nested call is
closed inside the script, with no more fuel than there are tokens from its callee on. -/
theorem guardedRun_total_truncated :
    let script : Script := ⟨tokenize "= f(g(1), h(2", Registry.empty⟩
    script.size = 10 ∧ script.guardedRun 10 = .ok script.run ∧ script.isCallee 3 = true ∧
      (∃ result, script.guardedCall {} 7 3 = .ok result ∧
        (∀ e, result.close = some e → 5 ≤ e ∧ e < script.size) ∧ result.resume ≤ script.size) ∧
      (∃ result, script.guardedArguments {} 8 ⟨⟨1, ⟨.identifier, "f", 1, ⟨0, 0⟩, ⟨2, 3⟩⟩⟩, [], true⟩ 3 = .ok result ∧
        result.resume ≤ script.size) ∧
      (script.stateAt 10).resume ≤ script.size := by
  intro script
  have size : script.size = 10 := by decide +kernel
  have callee : script.isCallee 3 = true := by decide +kernel
  have outer : script.isCallee 1 = true := by decide +kernel
  have begins : script.BeginsArgument 3 := (reads_of_isCallee outer).argument (.inl rfl)
  obtain ⟨run, _, calls, arguments, resume⟩ := script.guardedRun_total
  obtain ⟨result, ok⟩ := (calls {} 7 3 callee).1 (by omega)
  obtain ⟨whole, read, _, within⟩ := arguments {} 8 ⟨⟨1, ⟨.identifier, "f", 1, ⟨0, 0⟩, ⟨2, 3⟩⟩⟩, [], true⟩ 3 begins
    (by omega) (by omega)
  exact ⟨size, run 10 (by omega), callee, ⟨result, ok, (calls {} 7 3 callee).2.2 result ok⟩, ⟨whole, read, within⟩,
    resume 10⟩

end Script

end ScriptCheck
