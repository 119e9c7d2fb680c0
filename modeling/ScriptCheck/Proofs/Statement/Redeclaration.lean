import ScriptCheck.Native.Builtin
import ScriptCheck.Proofs.Run.Clean
import ScriptCheck.Proofs.Run.Nearest
import ScriptCheck.Proofs.Statement.Start

/-! # Refused declarations

A declaration of a name that is there already is refused and remembered by its position. Its initializer is
then not stored, and an operator whose nearest variable is the refused name changes nothing. An operator
whose nearest variable is another occurrence of the name still changes the variable that was there.
-/

namespace ScriptCheck

namespace Script

variable {script : Script} {i p : Nat} {keyword x : Token} {symbol : Symbol}

/-- A declaration of a name that is there already is reported and refused. -/
theorem step_redeclared {state : State} {type : ValueType} (ahead : state.resume ≤ i)
    (before : script.before? i 1 = some keyword) (declares : keyword.kind.declares? = some type)
    (read : script.tokens[i]? = some x) (name : x.isName = true)
    (found : state.table.find? x.text = some symbol) :
    ⟨⟨i, x⟩, .redeclared x.text⟩ ∈ (script.step state i).findings ∧
      i ∈ (script.step state i).state.refused ∧
      (script.step state i).state.table = state.table := by
  have known : state.table.has x.text = true := by rw [Table.has, found, Option.isSome_some]
  rw [step_behind_type ahead before declares read (Token.isValue_of_isName name),
    State.declare_known name known]
  dsimp only
  split
  · simp [Progress.findings, Event.finding?, State.noting]
  · simp [Progress.findings, Event.finding?]

/-! ### Operators that change a variable -/

/-- Whether the operator before position `i` changes the variable `name`: it stands between two operands, the
check has not given up on them, and its nearest variable bears the name and was not refused. -/
def alters (script : Script) (i : Nat) (name : String) : Bool :=
  decide ((script.stateAt i).resume ≤ i) && script.tokens[i]?.isSome &&
    ((script.before? i 1).any fun op => op.kind.operator?.isSome) && script.hasLeft i &&
    (script.nearest? 0 i).any fun target =>
      !(script.stateAt i).refused.contains target &&
        script.tokens[target]?.any fun named => named.text == name

/-- The operator before position `i` changes the variable `name`, from the value that it has there to the result of
the operator for this value and the operand that is read at `i`. -/
def FoldsInto (script : Script) (i : Nat) (name : String) : Prop :=
  ∃ op current operator operand old result, script.before? i 1 = some op ∧ op.kind.operator? = some operator ∧
    script.tokens[i]? = some current ∧
    (script.operand (script.stateAt i).table i op current).operand = some operand ∧
    (script.stateAt i).table.value? name = some old ∧ operator.apply old operand.value = some result ∧
    (script.stateAt (i + 1)).table.value? name = some result

/-- Where such an operator finds nothing wrong, it has changed the variable by its operand. -/
theorem foldsInto_of_alters {name : String} (alters : script.alters i name = true)
    (clean : (script.progressAt i).findings = []) : script.FoldsInto i name := by
  simp only [Script.alters, Bool.and_eq_true, decide_eq_true_eq, Option.any_eq_true,
    Option.isSome_iff_exists, Bool.not_eq_true', List.contains_eq_mem, decide_eq_false_iff_not,
    beq_iff_eq] at alters
  obtain ⟨⟨⟨⟨ahead, current, here⟩, op, before, operator, isOperator⟩, left⟩, target, aim, accepted, named,
    read, rfl⟩ := alters
  have operates : op.kind.operator?.isSome := by
    rw [isOperator]
    rfl
  obtain ⟨operand, old, result, chain, _, isOperand, stored, applies, folded⟩ :=
    step_folds ahead before isOperator left here ((foldTarget_stateAt before operates).trans aim) accepted
      read clean
  refine ⟨op, current, operator, operand, old, result, before, isOperator, here, isOperand, stored, applies, ?_⟩
  rw [stateAt_succ, progressAt, folded]
  obtain ⟨symbol, found, _⟩ := Option.map_eq_some_iff.mp stored
  rw [Table.value?, Table.find?_update_self result found]
  rfl

/-- Position `i` stands behind an equal sign whose target bears the name and was not refused. -/
def StoresInto (script : Script) (i : Nat) (name : String) : Prop :=
  ∃ equals target, script.before? i 1 = some equals ∧ equals.kind = .equals ∧
    script.before? i 2 = some target ∧ i - 2 ∉ (script.stateAt i).refused ∧ target.text = name

/-- A step that stores nothing into a variable keeps its type, its place and whether it is initialized. Its
value is kept as well unless an operator changes it. -/
theorem find?_progressAt {name : String}
    (found : (script.stateAt i).table.find? name = some symbol)
    (stores : ¬ script.StoresInto i name) :
    ∃ kept, (script.progressAt i).state.table.find? name = some kept ∧ kept.type = symbol.type ∧
      kept.scope = symbol.scope ∧ kept.initialized = symbol.initialized ∧
      (script.alters i name = false → kept = symbol) := by
  have same : (script.progressAt i).state.table.find? name = some symbol → ∃ kept,
      (script.progressAt i).state.table.find? name = some kept ∧ kept.type = symbol.type ∧
        kept.scope = symbol.scope ∧ kept.initialized = symbol.initialized ∧
        (script.alters i name = false → kept = symbol) :=
    fun after => ⟨symbol, after, rfl, rfl, rfl, fun _ => rfl⟩
  by_cases visits : (script.stateAt i).resume ≤ i ∧ i < script.tokens.length
  · obtain ⟨ahead, inside⟩ := visits
    cases script.moves_step (script.stateAt i) i with
    | quiet notes | aims _ _ _ _ _ notes =>
      apply same
      rw [progressAt, notes.table]
      exact found
    | @declares _ current type _ _ _ notes =>
      apply same
      rw [progressAt, notes.table]
      rcases (script.stateAt i).declare_cases ⟨i, current⟩ type with
        keeps | ⟨larger, declared, grows⟩ | refuses
      · rw [keeps]
        exact found
      · rw [grows]
        exact Table.find?_declare declared found
      · rw [refuses]
        exact found
    | stores before kind assigned accepted _ _ notes =>
      apply same
      rw [progressAt, notes.table, Table.find?_assign_ne _ ?_]
      · exact found
      · rintro rfl
        exact stores ⟨_, _, before, kind, assigned, accepted, rfl⟩
    | @folds op named operator target _ changed _ result before left kind aim _ accepted read old applies
        notes =>
      have operates : op.kind.operator?.isSome := by
        rw [kind]
        rfl
      rw [foldTarget_stateAt before operates] at aim
      by_cases called : named.text = name
      · subst called
        obtain rfl : changed = symbol := Option.some.inj (old.symm.trans found)
        refine ⟨changed.update result, ?_, ?_, rfl, rfl, ?_⟩
        · rw [progressAt, notes.table]
          exact Table.find?_update_self result found
        · exact (Operator.type_apply applies).1.symm
        · intro unaltered
          simp [alters, ahead, inside, before, operates, left, aim, accepted, read] at unaltered
      · apply same
        rw [progressAt, notes.table]
        exact (Table.find?_update_ne result (Ne.symm called)).trans found
  · apply same
    rw [progressAt, step_eq_idle visits]
    exact found

/-- So a variable into which nothing is stored from one position to a later one is kept up to there. -/
theorem find?_stateAt {name : String} {n e : Nat} (later : n ≤ e)
    (found : (script.stateAt n).table.find? name = some symbol)
    (stores : ∀ j, n ≤ j → j < e → ¬ script.StoresInto j name) :
    ∃ kept, (script.stateAt e).table.find? name = some kept ∧ kept.type = symbol.type ∧
      kept.scope = symbol.scope ∧ kept.initialized = symbol.initialized ∧
      ((∀ j < e, n ≤ j → script.alters j name = false) → kept = symbol) := by
  induction later with
  | refl => exact ⟨symbol, found, rfl, rfl, rfl, fun _ => rfl⟩
  | @step e later ih =>
    obtain ⟨old, before, type, scope, initialized, value⟩ := ih fun j behind within =>
      stores j behind (Nat.lt_succ_of_lt within)
    obtain ⟨new, after, newType, newScope, newInitialized, newValue⟩ :=
      find?_progressAt before (stores e later (Nat.lt_succ_self e))
    refine ⟨new, ?_, newType.trans type, newScope.trans scope, newInitialized.trans initialized, ?_⟩
    · rw [stateAt_succ]
      exact after
    · intro unaltered
      rw [newValue (unaltered e (Nat.lt_succ_self e) later)]
      apply value
      intro j within
      exact unaltered j (Nat.lt_succ_of_lt within)

/-- Where a statement begins no variable is changed. -/
theorem table_progressAt_of_startsStatement (starts : script.StartsStatement p) :
    (script.progressAt p).state.table = (script.stateAt p).table := by
  cases script.moves_step (script.stateAt p) p with
  | quiet notes | aims _ _ _ _ _ notes => exact notes.table
  | declares before _ keyword _ =>
    have ends := starts _ before
    exact absurd keyword (by simp [Kind.declares?_of_endsStatement ends])
  | stores before kind =>
    have ends := starts _ before
    rw [kind] at ends
    cases ends
  | folds before _ kind =>
    have ends := starts _ before
    exact absurd kind (by simp [Kind.operator?_of_endsStatement ends])

/-- A refused declaration of a name is reported, and it keeps the variable that bears the name: its type, its
place and whether it is initialized, up to every later position with no equal sign before it but the one
of the initializer. The value is kept too unless an operator alters it, and an operator that alters it and
finds nothing wrong has folded its operand into it. -/
theorem redeclared_keeps {e : Nat} (starts : script.StartsStatement p)
    (read : script.tokens[p]? = some keyword) (type : keyword.isType = true)
    (named : script.tokens[p + 1]? = some x) (name : x.isName = true)
    (declared : (script.stateAt p).table.find? x.text = some symbol) (later : p + 2 ≤ e)
    (single : ∀ t ∈ (script.tokens.take e).drop (p + 3), t.kind ≠ .equals) :
    ⟨⟨p + 1, x⟩, .redeclared x.text⟩ ∈ (script.progressAt (p + 1)).findings ∧
      ∃ kept, (script.stateAt e).table.find? x.text = some kept ∧ kept.type = symbol.type ∧
        kept.scope = symbol.scope ∧ kept.initialized = symbol.initialized ∧
        ((∀ i < e, p + 2 ≤ i → script.alters i x.text = false) → kept = symbol) ∧
        ∀ i < e, p + 2 ≤ i → script.alters i x.text = true →
          (script.progressAt i).findings = [] → script.FoldsInto i x.text := by
  obtain ⟨_, declares⟩ := Option.isSome_iff_exists.mp type
  have declaredAt : (script.stateAt (p + 1)).table.find? x.text = some symbol := by
    rw [stateAt_succ, table_progressAt_of_startsStatement starts]
    exact declared
  obtain ⟨reported, refused, kept⟩ := step_redeclared (resume_succ_of_startsStatement starts read type)
    (by simpa [before?] using read) declares named name declaredAt
  have declaredBehind : (script.stateAt (p + 2)).table.find? x.text = some symbol := by
    rw [stateAt_succ, progressAt, kept]
    exact declaredAt
  -- The only equal sign is that of the initializer, whose target has been refused.
  have stores : ∀ j, p + 2 ≤ j → j < e → ¬ script.StoresInto j x.text := by
    rintro j behind within ⟨equals, _, before, kind, _, accepted, _⟩
    rw [before?, if_pos (show 1 ≤ j by omega)] at before
    rcases Nat.lt_or_ge j (p + 4) with near | far
    · rcases Nat.eq_or_lt_of_le behind with rfl | beyond
      · obtain rfl : x = equals := by simpa [named] using before
        rw [(Token.isName_iff.mp name).1] at kind
        cases kind
      · obtain rfl : j = p + 3 := by omega
        apply accepted
        refine refused_stateAt (i := p + 2) ?_ (Nat.le_succ _)
        rw [stateAt_succ]
        exact refused
    · refine single equals (List.mem_of_getElem? (i := j - 1 - (p + 3)) ?_) kind
      rw [List.getElem?_drop, Nat.add_sub_cancel' (by omega), List.getElem?_take_of_lt (by omega)]
      exact before
  obtain ⟨kept, found, type, scope, initialized, value⟩ := find?_stateAt later declaredBehind stores
  exact ⟨reported, kept, found, type, scope, initialized, value, fun _ _ _ => foldsInto_of_alters⟩

/-- A script that declares `x` twice, the second time with an initializer of numerals. -/
def declaredTwice : Script := ⟨tokenize "int x = 1; int x = 2 - 1;", Builtin.registry⟩

theorem declaredTwice_keeps :
    (declaredTwice.stateAt 12).table.find? "x" = some ⟨"x", .int 1, ⟨0, 0⟩, true⟩ := by
  have read : declaredTwice.tokens[5]? = some ⟨.typeInt, "int", 1, ⟨0, 0⟩, ⟨11, 14⟩⟩ := by
    decide +kernel
  have named : declaredTwice.tokens[6]? = some ⟨.identifier, "x", 1, ⟨0, 0⟩, ⟨15, 16⟩⟩ := by
    decide +kernel
  have declared : (declaredTwice.stateAt 5).table.find? "x" = some ⟨"x", .int 1, ⟨0, 0⟩, true⟩ := by
    decide +kernel
  obtain ⟨_, kept, found, _, _, _, same, _⟩ := redeclared_keeps (e := 12) (by decide +kernel) read
    (by decide) named (by decide +kernel) declared (by decide) (by decide +kernel)
  rw [found, same (by decide +kernel)]

/-- A declaration that is refused changes the variable all the same when its initializer begins with that
variable: the operator behind it finds no other one. -/
theorem redeclared_changes :
    let script : Script := ⟨tokenize "int x = 1; int x = x + 1;", Builtin.registry⟩
    (script.stateAt 5).table.find? "x" = some ⟨"x", .int 1, ⟨0, 0⟩, true⟩ ∧
      (script.progressAt 6).findings.map Finding.problem = [.redeclared "x"] ∧
      (script.stateAt 12).table.find? "x" = some ⟨"x", .int 2, ⟨0, 0⟩, true⟩ := by
  decide +kernel

end Script

end ScriptCheck
