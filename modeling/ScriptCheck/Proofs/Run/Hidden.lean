import ScriptCheck.Native.Builtin
import ScriptCheck.Proofs.Run.Headings
import ScriptCheck.Proofs.Run.Nearest
import ScriptCheck.Proofs.Scope.Coordinates
import ScriptCheck.Proofs.Statement.Start
import ScriptCheck.Proofs.Table.Overwrite

/-! # Variables that cannot be reached

A variable that no token of some statements can reach has no part in them: whatever it holds, the same happens and
the same is left behind, and the variable keeps what it holds (`Script.hidden_noninterference`). Every rule looks
names up from where some token of the statements stands, and commutes with another value for a name that is hidden
there. Which token that is differs: the operand's own for an operand and an argument, the target's for what is
assigned, and for an operator the nearest variable's, which the search never looks for in front of the statements.
-/

namespace ScriptCheck

/-! ### Calls -/

private theorem Frame.take_congr {first second : Table} {frame : Frame} {site : Site}
    (same : first.resolve site.token.text site.token.scope = second.resolve site.token.text site.token.scope) :
    frame.take first site = frame.take second site := by
  unfold take
  rw [same]

/-- A reading sees of the variables only what the tokens up to the end of the statement mean. -/
theorem readCall_congr {natives : Registry} {first second : Table} {ts : List Token} {position : Nat}
    {expected : Expected} {top : Frame} {below : List Frame}
    (same : ∀ t ∈ ts.takeWhile (fun t => !t.kind.endsStatement),
      first.resolve t.text t.scope = second.resolve t.text t.scope) :
    readCall natives first ts position expected top below =
      readCall natives second ts position expected top below := by
  have onward : ∀ {t : Token} {rest : List Token}, ¬ t.kind.endsStatement = true →
      (∀ u ∈ (t :: rest).takeWhile (fun t => !t.kind.endsStatement),
        first.resolve u.text u.scope = second.resolve u.text u.scope) →
      first.resolve t.text t.scope = second.resolve t.text t.scope ∧
        ∀ u ∈ rest.takeWhile (fun t => !t.kind.endsStatement),
          first.resolve u.text u.scope = second.resolve u.text u.scope := by
    intro t rest inside same
    rw [List.takeWhile_cons_of_pos (by simpa using inside)] at same
    exact List.forall_mem_cons.mp same
  fun_induction readCall natives first ts position expected top below with
  | case1 => rfl
  | case2 t rest position expected top below ends => rw [readCall, if_pos ends]
  | case3 t rest position top below inside ih =>
    rw [readCall, if_neg inside, if_pos rfl]
    exact ih (onward inside same).2
  | case4 t rest position expected top inside notOpening closing =>
    rw [readCall, if_neg inside, if_neg notOpening, if_pos closing]
  | case5 t rest position expected top inside notOpening closing ran parent others heard ih =>
    rw [readCall, if_neg inside, if_neg notOpening, if_pos closing]
    dsimp only
    rw [ih (onward inside same).2]
  | case6 t rest position top below inside comma notOpening notClosing ih =>
    rw [readCall, if_neg inside, if_neg notOpening, if_neg notClosing, if_pos rfl, if_pos comma]
    exact ih (onward inside same).2
  | case7 t rest position top below inside notComma notOpening notClosing =>
    rw [readCall, if_neg inside, if_neg notOpening, if_neg notClosing, if_pos rfl, if_neg notComma]
  | case8 t rest position expected top below inside notOpening notClosing notSeparator calls ih =>
    rw [readCall, if_neg inside, if_neg notOpening, if_neg notClosing, if_neg notSeparator, if_pos calls,
      ih (onward inside same).2]
  | case9 t rest position expected top below inside notOpening notClosing notSeparator single value taken
      ih =>
    have taking : top.take first ⟨position, t⟩ = top.take second ⟨position, t⟩ :=
      Frame.take_congr (onward inside same).1
    rw [readCall, if_neg inside, if_neg notOpening, if_neg notClosing, if_neg notSeparator, if_neg single,
      if_pos value]
    dsimp only
    rw [← taking, ih (onward inside same).2]
  | case10 t rest position expected top below inside notOpening notClosing notSeparator single notValue =>
    rw [readCall, if_neg inside, if_neg notOpening, if_neg notClosing, if_neg notSeparator, if_neg single,
      if_neg notValue]

/-! ### Rule by rule -/

/-- The state with another value for a name. -/
def State.overwrite (name : String) (value : Value) (initialized : Bool) (state : State) : State :=
  { state with table := state.table.overwrite name value initialized }

def Progress.overwrite (name : String) (value : Value) (initialized : Bool) (progress : Progress) : Progress :=
  { progress with state := progress.state.overwrite name value initialized }

@[simp] theorem State.overwrite_table (name : String) (value : Value) (initialized : Bool) (state : State) :
    (state.overwrite name value initialized).table = state.table.overwrite name value initialized := rfl

@[simp] theorem Progress.overwrite_state (name : String) (value : Value) (initialized : Bool)
    (progress : Progress) : (progress.overwrite name value initialized).state =
      progress.state.overwrite name value initialized := rfl

@[simp] theorem Progress.overwrite_events (name : String) (value : Value) (initialized : Bool)
    (progress : Progress) : (progress.overwrite name value initialized).events = progress.events := rfl

def Ruling.overwrite (name : String) (value : Value) (initialized : Bool) (ruling : Ruling) : Ruling :=
  { ruling with progress := ruling.progress.overwrite name value initialized }

section Rules

variable {name : String} {value : Value} {initialized : Bool} {state : State} {site : Site}

namespace State

private theorem declare_overwrite (known : state.table.has name = true) (type : ValueType) :
    (state.overwrite name value initialized).declare site type =
      (state.declare site type).overwrite name value initialized := by
  unfold declare
  dsimp only
  split
  · rfl
  · rw [overwrite, Table.declare?_overwrite known]
    cases state.table.declare? site.token.text type site.token.scope <;> rfl

private theorem noting_overwrite (call : CallResult) : (state.overwrite name value initialized).noting call =
    (state.noting call).overwrite name value initialized := rfl

private theorem notingOperand_overwrite (read : OperandResult) :
    (state.overwrite name value initialized).notingOperand read =
      (state.notingOperand read).overwrite name value initialized := by
  unfold notingOperand
  split <;> rfl

private theorem endStatement_overwrite (previous : Token) :
    (state.overwrite name value initialized).endStatement site previous =
      (state.endStatement site previous).overwrite name value initialized := by
  unfold endStatement
  repeat' split
  all_goals rfl

private theorem destination_overwrite {target : Token} (hidden : state.table.resolve name target.scope = .hidden)
    (position : Nat) : (state.overwrite name value initialized).destination position target site =
      state.destination position target site := by
  unfold destination
  rw [overwrite, Table.resolve_overwrite hidden]

/-- What may be stored into is not a name that the target cannot reach. -/
theorem ne_of_destination {position : Nat} {target : Token} {settled : String}
    (hidden : state.table.resolve name target.scope = .hidden)
    (found : (state.destination position target site).1 = some settled) : settled ≠ name := by
  unfold destination at found
  split at found
  · cases found
  · split at found
    · rename_i visible
      obtain rfl := Option.some.inj found
      exact Table.ne_of_visible hidden visible
    · cases found
    · cases found

private theorem store_overwrite {target : String} (different : target ≠ name) (stored : Value) (mismatch : Problem) :
    (state.overwrite name value initialized).store site target stored mismatch =
      (state.store site target stored mismatch).overwrite name value initialized := by
  unfold store
  rw [overwrite, Table.find?_overwrite_ne different]
  split
  · rfl
  · split
    · rw [Table.assign, Table.change_overwrite (Symbol.assign_name stored) different]
      rfl
    · rfl

private theorem storeOutcome_overwrite {target : String} (different : target ≠ name) (outcome : Outcome) :
    (state.overwrite name value initialized).storeOutcome site target outcome =
      (state.storeOutcome site target outcome).overwrite name value initialized := by
  cases outcome with
  | failed => rfl
  | void => rfl
  | value stored =>
    rw [storeOutcome, store_overwrite different]
    rfl

private theorem fold_overwrite {target : Token} (hidden : state.table.resolve name target.scope = .hidden)
    (operator : Operator) (op : Token) (operand : Value) :
    (state.overwrite name value initialized).fold site operator op target operand =
      (state.fold site operator op target operand).overwrite name value initialized := by
  unfold fold
  rw [overwrite, Table.resolve_overwrite hidden]
  split
  · rfl
  · rfl
  · rename_i visible
    split
    · rfl
    · split
      · rfl
      · rename_i result _
        rw [Table.update, Table.change_overwrite (Symbol.update_name result)
          (Table.ne_of_visible hidden visible)]
        rfl

end State

namespace Script

variable {script : Script} {i : Nat} {current : Token}

/-- What a call at position `i` reads does not reach the name. -/
def CallApart (script : Script) (table : Table) (name : String) (i : Nat) : Prop :=
  script.isCallee i = true →
    ∀ t ∈ (script.tokens.drop (i + 2)).takeWhile (fun t => !t.kind.endsStatement),
      table.resolve name t.scope = .hidden

private theorem evaluate_overwrite {table : Table} (apart : script.CallApart table name i)
    (callee : script.isCallee i = true) (t : Token) :
    script.evaluate (table.overwrite name value initialized) i t = script.evaluate table i t := by
  unfold evaluate
  rw [readCall_congr]
  intro u member
  exact Table.resolve_overwrite (apart callee u member) u.text

private theorem operand_overwrite {table : Table} {op : Token} (own : table.resolve name current.scope = .hidden)
    (calls : script.CallApart table name i) :
    script.operand (table.overwrite name value initialized) i op current =
      script.operand table i op current := by
  unfold operand
  dsimp only
  split
  · rename_i callee
    rw [evaluate_overwrite calls callee]
  · rw [Table.resolve_overwrite own]

private theorem evaluateFresh_overwrite (declared : Progress) (calls : script.CallApart declared.state.table name i) :
    script.evaluateFresh i current (declared.overwrite name value initialized) =
      (script.evaluateFresh i current declared).overwrite name value initialized := by
  unfold evaluateFresh
  dsimp only
  split
  · rename_i visits
    rw [if_pos (by exact visits), Progress.overwrite_state, State.overwrite_table,
      evaluate_overwrite calls (Bool.and_eq_true_iff.mp visits).1]
    rfl
  · rename_i passes
    rw [if_neg (by exact passes)]

private theorem enterValue_overwrite (own : state.table.resolve name current.scope = .hidden)
    (calls : script.CallApart state.table name i) (previous : Token) :
    script.enterValue (state.overwrite name value initialized) i previous current =
      (script.enterValue state i previous current).overwrite name value initialized := by
  rw [enterValue_eq, enterValue_eq]
  split
  · rfl
  · cases previous.kind.declares? with
    | none => exact evaluateFresh_overwrite state.idle calls
    | some type =>
      simp only [State.declare_overwrite (Table.has_of_hidden own)]
      apply evaluateFresh_overwrite
      -- A declaration keeps hidden what is hidden.
      intro callee t member
      have hidden := calls callee t member
      rcases state.declare_cases ⟨i, current⟩ type with same | ⟨larger, declared, same⟩ | same <;> rw [same]
      · exact hidden
      · exact Table.hidden_declare declared hidden
      · exact hidden

private theorem checkGrammar_overwrite (own : state.table.resolve name current.scope = .hidden)
    (calls : script.CallApart state.table name i) (previous : Token) :
    script.checkGrammar (state.overwrite name value initialized) i previous current =
      (script.checkGrammar state i previous current).overwrite name value initialized := by
  unfold checkGrammar
  cases current.kind with
  | identifier | stringLiteral => exact enterValue_overwrite own calls previous
  | semicolon => exact State.endStatement_overwrite previous
  | openScope | closeScope | equals | typeInt | typeFloat | typeString =>
    dsimp only
    split <;> rfl
  | plus | minus | openParen | closeParen | comma => rfl

private theorem assign_overwrite {target : Token} (assigned : state.table.resolve name target.scope = .hidden)
    (calls : script.CallApart state.table name i) :
    script.assign (state.overwrite name value initialized) i target current =
      (script.assign state i target current).overwrite name value initialized := by
  unfold assign
  dsimp only
  rw [State.destination_overwrite assigned, State.overwrite_table, Table.resolve_overwrite assigned]
  split
  · rename_i callee
    rw [evaluate_overwrite calls callee]
    split
    · rename_i settled found
      rw [State.noting_overwrite, State.storeOutcome_overwrite (State.ne_of_destination assigned found)]
      rfl
    · rfl
  · split
    · split <;> rfl
    · split
      · rfl
      · rfl
      · split
        · rfl
        · rename_i settled found
          rw [State.store_overwrite (State.ne_of_destination assigned found)]
          rfl

/-- What an operator before position `i` changes does not reach the name. -/
def TargetApart (script : Script) (state : State) (name : String) (i : Nat) : Prop :=
  ∀ target named, script.foldTarget state i = some target → script.tokens[target]? = some named →
    state.table.resolve name named.scope = .hidden

private theorem foldAt_overwrite {target : Nat} {operator : Operator} {op : Token} {operand : Value}
    (apart : ∀ named, script.tokens[target]? = some named → state.table.resolve name named.scope = .hidden) :
    script.foldAt (state.overwrite name value initialized) i target operator op current operand =
      (script.foldAt state i target operator op current operand).overwrite name value initialized := by
  unfold foldAt
  split
  · rename_i refused
    rw [if_pos (by exact refused)]
    rfl
  · rename_i accepted
    rw [if_neg (by exact accepted)]
    split
    · rfl
    · rename_i named read
      exact State.fold_overwrite (apart named read) ..

private theorem combine_overwrite {operator : Operator} {op : Token}
    (own : state.table.resolve name current.scope = .hidden) (calls : script.CallApart state.table name i)
    (target : script.TargetApart state name i) :
    script.combine (state.overwrite name value initialized) i operator op current =
      (script.combine state i operator op current).overwrite name value initialized := by
  unfold combine
  dsimp only
  rw [State.overwrite_table, operand_overwrite own calls, State.notingOperand_overwrite]
  split
  · rfl
  have notes := state.notes_notingOperand (script.operand state.table i op current)
  have same : script.foldTarget ((state.notingOperand (script.operand state.table i op current)).overwrite
      name value initialized) i = script.foldTarget state i := by
    rw [foldTarget, State.overwrite, notes.chain, foldTarget]
  unfold useOperand
  rw [same, foldTarget_of_notes notes]
  split
  · rename_i operand position _ aim
    let noted : State := { state.notingOperand (script.operand state.table i op current) with
      chain := some ⟨operand.last, if operand.last = i && current.isName then i else position⟩ }
    have apart : ∀ named, script.tokens[position]? = some named →
        noted.table.resolve name named.scope = .hidden := by
      intro named read
      change (state.notingOperand _).table.resolve name named.scope = .hidden
      rw [notes.table]
      exact target position named aim read
    exact congrArg (Progress.after _) (foldAt_overwrite apart)
  · rfl

/-- What is hidden before a step is hidden behind it. -/
theorem Moves.hidden {next : State} (moves : script.Moves state i next) {place : Scope}
    (hidden : state.table.resolve name place = .hidden) : next.table.resolve name place = .hidden := by
  cases moves with
  | quiet notes | aims _ _ _ _ _ notes =>
    rw [notes.table]
    exact hidden
  | @declares _ current type _ _ _ notes =>
    rw [notes.table]
    rcases state.declare_cases ⟨i, current⟩ type with same | ⟨larger, declared, same⟩ | same <;> rw [same]
    · exact hidden
    · exact Table.hidden_declare declared hidden
    · exact hidden
  | @stores _ _ _ stored _ _ _ _ _ _ notes =>
    rw [notes.table]
    exact Table.hidden_change (Symbol.assign_name stored) (fun _ => rfl) hidden
  | @folds _ _ _ _ _ _ _ result _ _ _ _ _ _ _ _ _ notes =>
    rw [notes.table]
    exact Table.hidden_change (Symbol.update_name result) (fun _ => rfl) hidden

/-! ### A step -/

/-- Nothing that a step at position `i` looks names up from reaches the name. -/
structure Apart (script : Script) (state : State) (name : String) (i : Nat) : Prop where
  own : ∀ t, script.tokens[i]? = some t → state.table.resolve name t.scope = .hidden
  calls : script.CallApart state.table name i
  assigned : ∀ equals target, script.before? i 1 = some equals → equals.kind = .equals →
    script.before? i 2 = some target → state.table.resolve name target.scope = .hidden
  folded : ∀ op, script.before? i 1 = some op → op.kind.operator?.isSome → script.TargetApart state name i

private theorem follow_overwrite {previous : Token} (apart : script.Apart state name i)
    (before : script.before? i 1 = some previous) (read : script.tokens[i]? = some current) :
    script.follow (state.overwrite name value initialized) i previous current =
      (script.follow state i previous current).overwrite name value initialized := by
  have own := apart.own current read
  unfold follow
  split
  · rename_i operator isOperator
    exact combine_overwrite own apart.calls (apart.folded previous before (by rw [isOperator]; rfl))
  · split
    · exact checkGrammar_overwrite own apart.calls previous
    · rename_i target found
      have kind : previous.kind = .equals := by
        split at found
        · assumption
        · cases found
      rw [if_pos kind] at found
      have moves : script.Moves state i (script.assign state i target current).progress.state :=
        moves_assign before kind found
      rw [assign_overwrite (apart.assigned previous target before kind found) apart.calls]
      dsimp only
      split
      · rename_i continues
        rw [if_pos (by exact continues)]
        refine congrArg (Progress.after _) (checkGrammar_overwrite (moves.hidden own) ?_ previous)
        intro callee t member
        exact moves.hidden (apart.calls callee t member)
      · rename_i stops
        rw [if_neg (by exact stops)]
        rfl

/-- A step that does not reach a name does the same whatever the name holds, and keeps that. -/
theorem step_overwrite (apart : script.Apart state name i) :
    script.step (state.overwrite name value initialized) i =
      (script.step state i).overwrite name value initialized := by
  unfold step
  split
  · rename_i skipped
    rw [if_pos (by exact skipped)]
    rfl
  · rename_i ahead
    rw [if_neg (by exact ahead)]
    split
    · rfl
    · rename_i current read
      split
      · unfold State.begin
        split <;> rfl
      · rename_i previous before
        exact follow_overwrite apart before read

end Script

end Rules

/-! ### Whole statements -/

namespace Script

variable {script : Script} {b e i : Nat}

/-- The search for the nearest variable stays behind the end of the statement before. -/
theorem le_of_nearest? {depth target : Nat} (starts : script.StartsStatement b) (behind : b ≤ i)
    (found : script.nearest? depth i = some target) : b ≤ target := by
  induction i generalizing depth with
  | zero => cases found
  | succ j ih =>
    rcases Nat.eq_or_lt_of_le behind with rfl | later
    · -- The token in front of the statements ends the search.
      rw [nearest?] at found
      split at found
      · cases found
      · rename_i t read
        rw [if_pos (starts t (by simpa [before?] using read))] at found
        cases found
    · have inside := Nat.le_of_lt_succ later
      rw [nearest?] at found
      repeat' split at found
      all_goals first | exact ih inside found | cases found
      exact inside

/-- Statements stand from position `b` on and before `e`: the end of another one stands before them, and they
end with one or with the script. -/
structure Statements (script : Script) (b e : Nat) : Prop where
  starts : script.StartsStatement b
  ends : e = script.size ∨ ∃ t, script.before? e 1 = some t ∧ t.kind.endsStatement = true

private theorem exists_of_mem_takeWhile {p : Token → Bool} {ts : List Token} {t : Token}
    (member : t ∈ ts.takeWhile p) :
    ∃ k : Nat, ts[k]? = some t ∧ ∀ j u, j ≤ k → ts[j]? = some u → p u = true := by
  induction ts with
  | nil => cases member
  | cons first rest ih =>
    by_cases goesOn : p first = true
    · rw [List.takeWhile_cons_of_pos goesOn] at member
      have start : ∀ u, (first :: rest)[0]? = some u → p u = true := by
        intro u here
        obtain rfl : first = u := by simpa using here
        exact goesOn
      rcases List.mem_cons.mp member with rfl | later
      · refine ⟨0, rfl, fun j u within found => start u ?_⟩
        obtain rfl : j = 0 := by omega
        exact found
      · obtain ⟨k, found, before⟩ := ih later
        refine ⟨k + 1, found, fun j u within read => ?_⟩
        cases j with
        | zero => exact start u read
        | succ j => exact before j u (by omega) read
    · rw [List.takeWhile_cons_of_neg goesOn] at member
      cases member

/-- What a call in some statements reads stands in these statements. -/
theorem Statements.lt_of_mem_call (statements : script.Statements b e) (inside : i < e)
    (callee : script.isCallee i = true) {t : Token}
    (member : t ∈ (script.tokens.drop (i + 2)).takeWhile fun t => !t.kind.endsStatement) :
    ∃ k, i + 2 ≤ k ∧ k < e ∧ script.tokens[k]? = some t := by
  obtain ⟨n, found, before⟩ := exists_of_mem_takeWhile member
  rw [List.getElem?_drop] at found
  refine ⟨i + 2 + n, Nat.le_add_right _ _, ?_, found⟩
  rcases statements.ends with rfl | ⟨last, atEnd, ends⟩
  · exact (List.getElem?_eq_some_iff.mp found).1
  · obtain ⟨f, o, atCallee, name, atOpening, opens⟩ := isCallee_iff.mp callee
    rw [before?, if_pos (by omega)] at atEnd
    -- The last token is neither the callee nor its parenthesis, nor does the call read on beyond it.
    have notCallee : e - 1 ≠ i := by
      rintro same
      obtain rfl : last = f := by simpa [same, atCallee] using atEnd.symm
      simp [(Token.isName_iff.mp name).1, Kind.endsStatement, Kind.isScope] at ends
    have notOpening : e - 1 ≠ i + 1 := by
      rintro same
      obtain rfl : last = o := by simpa [same, atOpening] using atEnd.symm
      simp [opens, Kind.endsStatement, Kind.isScope] at ends
    apply Nat.lt_of_not_le
    intro beyond
    have read : (script.tokens.drop (i + 2))[e - 1 - (i + 2)]? = some last := by
      rw [List.getElem?_drop, Nat.add_sub_cancel' (by omega)]
      exact atEnd
    have goesOn := before _ last (by omega) read
    simp [ends] at goesOn

/-- No token of some statements of a source reaches a name that is hidden from all of them. -/
theorem Statements.apart {source : String} {natives : Registry} {name : String}
    (statements : Script.Statements ⟨tokenize source, natives⟩ b e) (behind : b ≤ i) (inside : i < e)
    (hidden : ∀ k t, b ≤ k → k < e → (tokenize source)[k]? = some t →
      (Script.stateAt ⟨tokenize source, natives⟩ i).table.resolve name t.scope = .hidden) :
    Script.Apart ⟨tokenize source, natives⟩ (Script.stateAt ⟨tokenize source, natives⟩ i) name i := by
  refine ⟨fun t read => hidden i t behind inside read, ?_, ?_, ?_⟩
  · intro callee t member
    obtain ⟨k, later, within, read⟩ := statements.lt_of_mem_call inside callee member
    exact hidden k t (by omega) within read
  · intro equals target before kind assigned
    rcases Nat.lt_trichotomy i (b + 1) with first | rfl | later
    · obtain rfl : i = b := by omega
      have ends := statements.starts equals before
      rw [kind] at ends
      cases ends
    · -- The target stands in front of the statements, on the level of the equal sign.
      have next : (tokenize source)[b]? = some equals := by simpa [before?] using before
      rw [before?] at assigned
      split at assigned
      · rename_i positive
        have same := scope_getElem?_succ (p := b - 1) assigned
          (by rw [Nat.sub_add_cancel (by omega)]; exact next) (by rw [kind]; rfl)
        rw [← same]
        exact hidden b equals (Nat.le_refl b) (by omega) next
      · cases assigned
    · rw [before?, if_pos (by omega)] at assigned
      exact hidden (i - 2) target (by omega) (by omega) assigned
  · intro op before operator target named aim read
    rw [foldTarget_stateAt before operator] at aim
    have near := lt_of_nearest? aim
    exact hidden target named (le_of_nearest? statements.starts behind aim) (by omega) read

/-- What is declared stays, under its name and in its place. -/
theorem exists_find?_stateAt {n : Nat} {v : Symbol} (later : b ≤ n)
    (declared : (script.stateAt b).table.find? v.name = some v) :
    ∃ kept, (script.stateAt n).table.find? v.name = some kept ∧ kept.name = v.name ∧ kept.scope = v.scope := by
  have member := (headings_stateAt_mono later).subset (Table.mem_headings_of_find? declared)
  obtain ⟨kept, found, heading⟩ := (script.distinct_stateAt n).find?_of_mem_headings member
  exact ⟨kept, found, congrArg Heading.name heading, congrArg Heading.scope heading⟩

/-- Some statements that do not reach a variable do the same whatever the variable holds, and keep that. -/
theorem steps_overwrite {source : String} {natives : Registry} {v : Symbol}
    (statements : Script.Statements ⟨tokenize source, natives⟩ b e)
    (declared : (Script.stateAt ⟨tokenize source, natives⟩ b).table.find? v.name = some v)
    (unreached : ∀ k t, b ≤ k → k < e → (tokenize source)[k]? = some t → v.scope.visibleFrom t.scope = false)
    (value : Value) (initialized : Bool) (m : Nat) (behind : b ≤ i) (within : i + m ≤ e) :
    let script : Script := ⟨tokenize source, natives⟩
    script.steps ((script.stateAt i).overwrite v.name value initialized) (List.range' i m) =
        (script.steps (script.stateAt i) (List.range' i m)).overwrite v.name value initialized ∧
      (script.steps (script.stateAt i) (List.range' i m)).state = script.stateAt (i + m) := by
  induction m generalizing i with
  | zero => exact ⟨rfl, rfl⟩
  | succ m ih =>
    obtain ⟨kept, found, _, place⟩ := exists_find?_stateAt behind declared
    have apart := statements.apart behind (by omega) fun k t later inside read =>
      Table.resolve_eq_hidden_iff.mpr ⟨kept, found, by rw [place]; exact unreached k t later inside read⟩
    have step : Script.step ⟨tokenize source, natives⟩ (State.overwrite v.name value initialized _) i = _ :=
      step_overwrite apart
    obtain ⟨same, reaches⟩ := ih (i := i + 1) (by omega) (by omega)
    simp only [List.range'_succ, steps, step, Progress.overwrite_state, step_stateAt, Progress.after_state]
    refine ⟨?_, by rw [reaches]; congr 1; omega⟩
    rw [same]
    rfl

/-- Some statements of a source, with the end of another one before them and with an end or the end of the source
behind the last of them, have no part in a variable that none of their tokens reaches: from two states that
differ only in what the variable holds and whether it is initialized, the same happens, the states behind differ in
the same way only, and the variable holds what it held. -/
theorem hidden_noninterference (source : String) (natives : Registry) {v : Symbol}
    (statements : Script.Statements ⟨tokenize source, natives⟩ b e) (ordered : b ≤ e)
    (declared : (Script.stateAt ⟨tokenize source, natives⟩ b).table.find? v.name = some v)
    (unreached : ∀ k t, b ≤ k → k < e → (tokenize source)[k]? = some t → v.scope.visibleFrom t.scope = false)
    (value other : Value) (initialized otherwise : Bool) :
    let script : Script := ⟨tokenize source, natives⟩
    let first := script.steps ((script.stateAt b).overwrite v.name value initialized) (List.range' b (e - b))
    let second := script.steps ((script.stateAt b).overwrite v.name other otherwise) (List.range' b (e - b))
    first.events = second.events ∧
      second.state = first.state.overwrite v.name other otherwise ∧
      (∀ name, name ≠ v.name → first.state.table.find? name = second.state.table.find? name) ∧
      first.state.table.find? v.name = some (v.overwrite value initialized) ∧
      second.state.table.find? v.name = some (v.overwrite other otherwise) := by
  have reaches : b + (e - b) = e := Nat.add_sub_cancel' ordered
  obtain ⟨once, final⟩ := steps_overwrite statements declared unreached value initialized (e - b)
    (Nat.le_refl b) (Nat.le_of_eq reaches)
  obtain ⟨twice, _⟩ := steps_overwrite statements declared unreached other otherwise (e - b)
    (Nat.le_refl b) (Nat.le_of_eq reaches)
  rw [reaches] at final
  obtain ⟨kept, found, name, place⟩ := exists_find?_stateAt ordered declared
  have holds : ∀ value initialized, kept.overwrite value initialized = v.overwrite value initialized := by
    intro value initialized
    simp only [Symbol.overwrite, name, place]
  simp only [once, twice, Progress.overwrite_events, Progress.overwrite_state, final, State.overwrite_table]
  refine ⟨trivial, ?_, fun name apart => ?_, ?_, ?_⟩
  · simp only [State.overwrite, Table.overwrite_overwrite]
  · rw [Table.find?_overwrite_ne apart, Table.find?_overwrite_ne apart]
  · rw [Table.find?_overwrite_self found, holds]
  · rw [Table.find?_overwrite_self found, holds]

/-- A script whose second block reads a variable of the first one. -/
def siblingSource : String := "{ int a = 1; } { int b = a; b = b + 2; }"

theorem hidden_noninterference_sibling :
    let script : Script := ⟨tokenize siblingSource, Builtin.registry⟩
    let first := script.steps ((script.stateAt 7).overwrite "a" (.int 5) true) (List.range' 7 13)
    let second := script.steps ((script.stateAt 7).overwrite "a" (.string "x") false) (List.range' 7 13)
    first.events = second.events ∧
      second.state.table.find? "a" = some ⟨"a", .string "x", ⟨1, 1⟩, false⟩ := by
  have unreached : ∀ t ∈ (tokenize siblingSource).drop 7, (Scope.mk 1 1).visibleFrom t.scope = false := by
    decide +kernel
  obtain ⟨events, _, _, _, kept⟩ := hidden_noninterference siblingSource Builtin.registry
    (v := ⟨"a", .int 1, ⟨1, 1⟩, true⟩) (b := 7) (e := 20)
    ⟨by decide +kernel, .inl (by decide +kernel)⟩ (by decide) (by decide +kernel)
    (fun k t later _ read => unreached t (List.mem_of_getElem? (i := k - 7)
      (by rw [List.getElem?_drop, Nat.add_sub_cancel' later]; exact read)))
    (.int 5) (.string "x") true false
  exact ⟨events, kept⟩

end Script

end ScriptCheck
