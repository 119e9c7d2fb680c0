import ScriptCheck.Proofs.Run.Rules

/-! # The nearest variable

The backward scan for the target of an operator steps over a whole call as if it were not there
(`Script.nearest?_evaluate`). Hence a chain, which remembers its target instead of looking back,
always remembers the variable that the scan would find (`Script.foldTarget_stateAt`).
-/

namespace ScriptCheck

namespace Script

variable {script : Script} {p depth : Nat} {t : Token}

/-! ### One token of the scan -/

private theorem nearest?_closeParen (read : script.tokens[p]? = some t) (kind : t.kind = .closeParen) :
    script.nearest? depth (p + 1) = script.nearest? (depth + 1) p := by
  simp [nearest?, read, kind, Kind.endsStatement, Kind.isScope]

private theorem nearest?_openParen (read : script.tokens[p]? = some t) (kind : t.kind = .openParen) :
    script.nearest? (depth + 1) (p + 1) = script.nearest? depth p := by
  simp [nearest?, read, kind, Kind.endsStatement, Kind.isScope]

/-- Between the parentheses of a call, commas and values are stepped over. -/
theorem nearest?_inside (read : script.tokens[p]? = some t)
    (kind : t.kind = .comma ∨ t.isValue = true) :
    script.nearest? (depth + 1) (p + 1) = script.nearest? (depth + 1) p := by
  have passes : t.kind = .comma ∨ t.kind = .identifier ∨ t.kind = .stringLiteral := by
    simpa [Token.isValue, Kind.isValue] using kind
  rcases passes with kind | kind | kind <;>
    simp [nearest?, read, kind, Kind.endsStatement, Kind.isScope]

private theorem nearest?_callee (callee : script.isCallee p = true) :
    script.nearest? depth (p + 1) = script.nearest? depth p := by
  obtain ⟨t, _, read, name, _⟩ := isCallee_iff.mp callee
  have kind := (Token.isName_iff.mp name).1
  simp [nearest?, read, kind, callee, Kind.endsStatement, Kind.isScope]

/-- Outside of a call, the first variable is the nearest one, and other values are stepped over. -/
theorem nearest?_value (read : script.tokens[p]? = some t) (value : t.isValue = true)
    (single : script.isCallee p = false) :
    script.nearest? 0 (p + 1) = if t.isName then some p else script.nearest? 0 p := by
  have passes : t.kind = .identifier ∨ t.kind = .stringLiteral := by
    simpa [Token.isValue, Kind.isValue] using value
  rcases passes with kind | kind <;>
    simp [nearest?, read, kind, single, Kind.endsStatement, Kind.isScope]

/-- Operators, equal signs and type keywords are stepped over. -/
theorem nearest?_of_kind (read : script.tokens[p]? = some t)
    (kind : t.kind = .equals ∨ t.kind.operator?.isSome) :
    script.nearest? depth (p + 1) = script.nearest? depth p := by
  cases same : t.kind <;> simp [same, Kind.operator?] at kind <;>
    simp [nearest?, read, same, Kind.endsStatement, Kind.isScope, Token.isName]

/-- The scan finds a variable before the position from which it looks back. -/
theorem lt_of_nearest? {i target : Nat} (found : script.nearest? depth i = some target) : target < i := by
  induction i generalizing depth with
  | zero => cases found
  | succ j ih =>
    have back : ∀ {depth}, script.nearest? depth j = some target → target < j + 1 :=
      fun found => Nat.lt_succ_of_lt (ih found)
    rw [nearest?] at found
    repeat' split at found
    all_goals first | exact back found | cases found
    exact Nat.lt_succ_self _

/-- What the scan finds is a name. -/
theorem exists_name_of_nearest? {i target : Nat} (found : script.nearest? depth i = some target) :
    ∃ named, script.tokens[target]? = some named ∧ named.isName = true := by
  induction i generalizing depth with
  | zero => cases found
  | succ j ih =>
    rw [nearest?] at found
    repeat' split at found
    all_goals first | exact ih found | cases found
    rename_i read name
    exact ⟨_, read, name.2.1⟩

/-! ### A call of the scan -/

/-- From behind a call back to where its reader stands. Each open call adds one closing parenthesis that
has been passed. -/
theorem nearest?_readCall (table : Table) {ts : List Token} {position : Nat} {expected : Expected}
    (top : Frame) (below : List Frame) (reads : script.Reads position expected ts) :
    ∀ e, (readCall script.natives table ts position expected top below).close = some e →
      ∀ depth, script.nearest? depth (e + 1) =
        script.nearest? (depth + below.length + if expected = .opening then 0 else 1) position := by
  refine script.reading_induct table (motive := fun position expected _ below result =>
    ∀ e, result.close = some e → ∀ depth, script.nearest? depth (e + 1) =
      script.nearest? (depth + below.length + if expected = .opening then 0 else 1) position)
    ?giveUp ?opening ?close ?closeInner ?comma ?callee ?value top below reads
  case giveUp =>
    intro _ _ _ _ _ _ _ closed
    cases closed
  case opening =>
    intro _ _ _ _ _ read kind ih e closed depth
    rw [ih e closed depth]
    exact nearest?_openParen read kind
  case close =>
    intro _ position _ _ read kind ends e closed depth
    obtain rfl : position = e := Option.some.inj closed
    rw [if_neg ends.ne_opening]
    exact nearest?_closeParen read kind
  case closeInner =>
    intro _ _ _ _ _ _ _ read kind ends ih e closed depth
    rw [ih e closed depth, if_neg ends.ne_opening]
    exact nearest?_closeParen read kind
  case comma =>
    intro _ _ _ _ _ read kind ih e closed depth
    rw [ih e closed depth]
    exact nearest?_inside read (.inl kind)
  case callee =>
    intro _ _ _ _ _ _ _ calls _ begins ih e closed depth
    rw [ih e closed depth, if_neg begins.ne_opening, List.length_cons]
    exact nearest?_callee calls
  case value =>
    intro _ _ _ _ _ _ read value _ _ begins ih e closed depth
    rw [ih e closed depth, if_neg begins.ne_opening]
    exact nearest?_inside read (.inr value)

/-- A call is stepped over as a whole. -/
theorem nearest?_evaluate {table : Table} {e : Nat} (callee : script.isCallee p = true)
    (closed : (script.evaluate table p t).close = some e) :
    script.nearest? depth (e + 1) = script.nearest? depth p := by
  obtain ⟨_, u, _, _, next, kind⟩ := isCallee_iff.mp callee
  have back := nearest?_readCall table ⟨⟨p, t⟩, [], true⟩ [] (reads_of_isCallee callee) e closed depth
  rw [back, if_neg (by simp), List.length_nil, Nat.add_zero, nearest?_openParen next kind,
    nearest?_callee callee]

/-! ### The chain -/

/-- The chain remembers what the scan would find behind its last operand. -/
def ChainAgrees (script : Script) (state : State) : Prop :=
  ∀ chain, state.chain = some chain → script.nearest? 0 (chain.last + 1) = some chain.target

/-- As long as the chain agrees with the scan, so does the target of an operator. -/
theorem ChainAgrees.foldTarget {state : State} {i : Nat} {op : Token} (agrees : script.ChainAgrees state)
    (before : script.before? i 1 = some op) (operator : op.kind.operator?.isSome) :
    script.foldTarget state i = script.nearest? 0 i := by
  unfold Script.foldTarget
  split
  · rename_i chain found
    split
    · rename_i goesOn
      subst goesOn
      rw [nearest?_of_kind (p := chain.last + 1) (by simpa [before?] using before) (.inr operator),
        agrees chain found]
    · rfl
  · rfl

theorem ChainAgrees.step {state : State} (agrees : script.ChainAgrees state) (i : Nat) :
    script.ChainAgrees (script.step state i).state := by
  have extended : ∀ {target : Nat} {op : Token} {chain : Chain}, script.before? i 1 = some op →
      op.kind.operator?.isSome → script.foldTarget state i = some target →
      script.Continues state.table i target chain →
      script.nearest? 0 (chain.last + 1) = some chain.target := by
    intro target op chain before operator aim continues
    rw [agrees.foldTarget before operator] at aim
    cases continues with
    | single read value single =>
      rw [nearest?_value read value single]
      split <;> simp [aim]
    | call callee closed => rw [nearest?_evaluate callee closed, aim]
  intro chain found
  cases script.moves_step state i with
  | quiet notes =>
    rw [notes.chain] at found
    exact agrees chain found
  | declares _ _ _ notes =>
    rw [notes.chain, State.declare_chain] at found
    exact agrees chain found
  | stores _ _ _ _ _ _ notes =>
    rw [notes.chain] at found
    exact agrees chain found
  | aims before _ operator aim continues notes =>
    rw [notes.chain] at found
    obtain rfl := Option.some.inj found
    exact extended before operator aim continues
  | folds before _ kind aim continues _ _ _ _ notes =>
    rw [notes.chain] at found
    obtain rfl := Option.some.inj found
    exact extended before (by rw [kind]; rfl) aim continues

theorem chainAgrees_stateAt (script : Script) (i : Nat) : script.ChainAgrees (script.stateAt i) := by
  refine script.stateAt_induct (motive := fun _ state => script.ChainAgrees state) ?_ ?_ i
  · intro chain found
    cases found
  · intro i agrees
    exact agrees.step i

/-- In a run an operator changes the nearest variable before it. -/
theorem foldTarget_stateAt {i : Nat} {op : Token} (before : script.before? i 1 = some op)
    (operator : op.kind.operator?.isSome) :
    script.foldTarget (script.stateAt i) i = script.nearest? 0 i :=
  (script.chainAgrees_stateAt i).foldTarget before operator

end Script

end ScriptCheck
