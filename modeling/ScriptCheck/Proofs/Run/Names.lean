import ScriptCheck.Proofs.Run.Adjacency
import ScriptCheck.Proofs.Run.Alone
import ScriptCheck.Proofs.Run.Headings
import ScriptCheck.Proofs.Scope.Coordinates

/-! # The names that a script uses

A name is used as the source or the target of an assignment, as an operand or the target of an operator, or
as an argument of a call. Each of these rules looks the name up, so in a script without diagnostics every name
that is used was declared at an earlier token and can be reached (`Script.used_declared`). Any other name stands by
itself: it is meant to be checked against the token before it only, and no rule looks it up. Left out are a name
behind a sign and the arguments of a call behind a sign (`Script.BehindSign`). They are operands and arguments all the
same, but the rule for an operator returns early where it has no left operand, and leaves them to no other rule.
-/

namespace ScriptCheck

namespace Script

variable {script : Script} {state : State} {table : Table} {i p n : Nat} {t : Token}

/-- The name at position `i` is used. As a target it needs a token behind the equal sign or the operator,
since that token's rule is the one that changes it. A name behind a sign, an operator without a left operand, and
the arguments of a call behind a sign are left out, because the rule for an operator returns early there. -/
inductive Used (script : Script) (i : Nat) : Prop
  | source {equals : Token} (before : script.before? i 1 = some equals) (kind : equals.kind = .equals)
  | assigned {equals : Token} (behind : script.tokens[i + 1]? = some equals) (kind : equals.kind = .equals)
      (follows : i + 2 < script.size)
  | operand {op : Token} (before : script.before? i 1 = some op) (operates : op.kind.operator?.isSome)
      (left : script.hasLeft i = true)
  | combined {op : Token} (behind : script.tokens[i + 1]? = some op) (operates : op.kind.operator?.isSome)
      (follows : i + 2 < script.size)
  | argument {callee close : Nat} (calls : script.isCallee callee = true)
      (unsigned : script.followsSign callee = false) (closes : script.Matches (callee + 1) close)
      (behind : callee + 1 < i) (within : i < close)

/-- The name at position `i` stands behind a sign, or among the arguments of a call behind a sign. -/
def BehindSign (script : Script) (i : Nat) : Prop :=
  script.followsSign i = true ∨ ∃ callee, script.InCall callee i ∧ script.followsSign callee = true

/-! ### What a rule without a finding has looked up -/

private theorem visible_of_destination {position : Nat} {target : Token} {site : Site}
    (accepted : position ∉ state.refused)
    (clean : Event.Clean (state.destination position target site).2) :
    ∃ value, state.table.resolve target.text target.scope = .visible value := by
  unfold State.destination at clean
  rw [if_neg (by simpa using accepted)] at clean
  split at clean
  · rename_i value visible
    exact ⟨value, visible⟩
  · exact (Event.not_clean_reported _ _ clean).elim
  · exact (Event.not_clean_reported _ _ clean).elim

/-- The target of an assignment is settled whatever is assigned. -/
theorem destination_clean_of_assign {target : Token}
    (clean : Event.Clean (script.assign state i target t).progress.events) :
    Event.Clean (state.destination (i - 2) target ⟨i, t⟩).2 := by
  unfold assign at clean
  dsimp only at clean
  split at clean
  · exact (Event.clean_append.mp (Event.clean_append.mp clean).1).1
  · split at clean
    · split at clean
      · exact (Event.clean_append.mp clean).1
      · exact clean
    · split at clean
      · exact (Event.clean_append.mp clean).1
      · exact (Event.clean_append.mp clean).1
      · split at clean
        · exact clean
        · exact (Event.clean_append.mp clean).1

/-- The source of an assignment has been looked up, from where the target stands. -/
theorem visible_of_assign {target : Token} (single : script.isCallee i = false)
    (name : t.isName = true)
    (clean : Event.Clean (script.assign state i target t).progress.events) :
    ∃ value, state.table.resolve t.text target.scope = .visible value := by
  simp only [assign, single, Bool.false_eq_true, if_false, Token.isValue_of_isName name, Bool.not_true,
    Token.literal?_of_isName name] at clean
  split at clean
  · exact (Event.not_clean_reported _ _ (Event.clean_append.mp clean).2).elim
  · exact (Event.not_clean_reported _ _ (Event.clean_append.mp clean).2).elim
  · rename_i value visible
    exact ⟨value, visible⟩

private theorem visible_of_operand {op : Token} (single : script.isCallee i = false) (name : t.isName = true)
    (clean : Event.Clean (script.operand table i op t).events) :
    ∃ value, table.resolve t.text t.scope = .visible value := by
  simp only [Script.operand, single, Bool.false_eq_true, if_false, Token.literal?_of_isName name,
    (Token.isName_iff.mp name).1, ne_eq, not_true_eq_false] at clean
  split at clean
  · rename_i value visible
    exact ⟨value, visible⟩
  · exact (Event.not_clean_reported _ _ clean).elim
  · exact (Event.not_clean_reported _ _ clean).elim

private theorem visible_of_fold {site : Site} {operator : Operator} {op target : Token} {value : Value}
    (clean : Event.Clean (state.fold site operator op target value).events) :
    ∃ old, state.table.resolve target.text target.scope = .visible old := by
  unfold State.fold at clean
  split at clean
  · exact (Event.not_clean_reported _ _ clean).elim
  · exact (Event.not_clean_reported _ _ clean).elim
  · rename_i old visible
    exact ⟨old, visible⟩

private theorem visible_of_take {frame : Frame} (name : t.isName = true)
    (clean : Event.Clean (frame.take table ⟨i, t⟩).2) :
    ∃ value, table.resolve t.text t.scope = .visible value := by
  unfold Frame.take at clean
  simp only [Token.literal?_of_isName name] at clean
  split at clean
  · rename_i value visible
    exact ⟨value, visible⟩
  · exact (Event.not_clean_reported _ _ clean).elim
  · exact (Event.not_clean_reported _ _ clean).elim

/-- The names among the arguments that are read without a finding have been looked up. -/
theorem visible_of_readCall (table : Table) {ts : List Token} {position : Nat} {expected : Expected}
    (top : Frame) (below : List Frame) (reads : script.Reads position expected ts) :
    Event.Clean (readCall script.natives table ts position expected top below).events →
      ∀ e, (readCall script.natives table ts position expected top below).close = some e →
      ∀ j u, position ≤ j → j ≤ e → script.tokens[j]? = some u → u.isName = true →
        script.isCallee j = false → ∃ value, table.resolve u.text u.scope = .visible value := by
  -- What is read at `position` is no name, so a name from there on stands behind it.
  have behind : ∀ {position j : Nat} {t u : Token}, script.tokens[position]? = some t →
      t.kind ≠ .identifier → position ≤ j → script.tokens[j]? = some u → u.isName = true →
        position + 1 ≤ j := by
    intro position j t u read kind before found name
    rcases Nat.eq_or_lt_of_le before with rfl | before
    · obtain rfl : t = u := by simpa [read] using found
      exact absurd (Token.isName_iff.mp name).1 kind
    · exact before
  refine script.reading_induct table (motive := fun position _ _ _ result =>
    Event.Clean result.events → ∀ e, result.close = some e → ∀ j u, position ≤ j → j ≤ e →
      script.tokens[j]? = some u → u.isName = true → script.isCallee j = false →
        ∃ value, table.resolve u.text u.scope = .visible value) ?giveUp ?opening ?close ?closeInner ?comma
    ?callee ?value top below reads
  case giveUp =>
    intro _ _ _ _ _ _ clean
    exact (Event.not_clean_reported _ _ clean).elim
  case opening =>
    intro _ _ _ _ _ read kind ih clean e closed j u before within found name
    exact ih clean e closed j u (behind read (by simp [kind]) before found name) within found name
  case close =>
    intro _ position _ _ read kind _ _ e closed j u before within found name
    obtain rfl : position = e := Option.some.inj closed
    have := behind read (by simp [kind]) before found name
    omega
  case closeInner =>
    intro _ _ _ _ _ _ _ read kind _ ih clean e closed j u before within found name
    exact ih (Event.clean_append.mp clean).2 e closed j u
      (behind read (by simp [kind]) before found name) within found name
  case comma =>
    intro _ _ _ _ _ read kind ih clean e closed j u before within found name
    exact ih clean e closed j u (behind read (by simp [kind]) before found name) within found name
  case callee =>
    intro _ _ _ _ _ _ _ calls _ _ ih clean e closed j u before within found name single
    rcases Nat.eq_or_lt_of_le before with rfl | before
    · simp [single] at calls
    · exact ih clean e closed j u before within found name single
  case value =>
    intro t position _ _ _ _ read _ _ _ _ ih clean e closed j u before within found name single
    rcases Nat.eq_or_lt_of_le before with rfl | before
    · obtain rfl : t = u := by simpa [read] using found
      exact visible_of_take name (Event.clean_append.mp clean).1
    · exact ih (Event.clean_append.mp clean).2 e closed j u before within found name single

/-- A name among the arguments of a call without a finding has been looked up. -/
theorem visible_of_evaluate {e j : Nat} {u : Token} (callee : script.isCallee p = true)
    (clean : Event.Clean (script.evaluate table p t).events)
    (closed : (script.evaluate table p t).close = some e) (behind : p + 1 < j) (within : j ≤ e)
    (found : script.tokens[j]? = some u) (name : u.isName = true) (single : script.isCallee j = false) :
    ∃ value, table.resolve u.text u.scope = .visible value :=
  visible_of_readCall table ⟨⟨p, t⟩, [], true⟩ [] (reads_of_isCallee callee) clean e closed j u behind
    within found name single

/-! ### What a run without diagnostics has looked up -/

/-- In a run without diagnostics no declaration is refused. -/
theorem refused_stateAt_of_clean (clean : script.report.diagnostics = []) (n : Nat) :
    (script.stateAt n).refused = [] := by
  refine script.stateAt_induct (motive := fun _ state => state.refused = []) rfl ?_ n
  intro i none
  have ahead := (faultless_of_clean clean i).visits
  cases script.moves_step (script.stateAt i) i with
  | quiet notes | aims _ _ _ _ _ notes | stores _ _ _ _ _ _ notes | folds _ _ _ _ _ _ _ _ _ notes =>
    exact notes.refused.trans none
  | @declares keyword current type before read declares notes =>
    rw [progressAt, notes.refused]
    by_cases name : current.isName = true
    · have quiet := clean_progressAt clean i
      rw [progressAt, step_behind_type ahead before declares read (Token.isValue_of_isName name)] at quiet
      have declared : Event.Clean ((script.stateAt i).declare ⟨i, current⟩ type).events := by
        dsimp only at quiet
        split at quiet
        · exact (Event.clean_append.mp quiet).1
        · exact quiet
      obtain ⟨larger, same⟩ := State.declare_clean declared
      rw [same]
      exact none
    · simp [State.declare, name, none]

/-- The name can be reached from the place at some point of the run, at position `n` or before. -/
def Reaches (script : Script) (n : Nat) (name : String) (place : Scope) : Prop :=
  ∃ m ≤ n, m ≤ script.size ∧ ∃ value, (script.stateAt m).table.resolve name place = .visible value

/-- What can be reached in the course of a run was declared before, and the run keeps it. -/
theorem Reaches.exists_declared {name : String} {place : Scope} (reaches : script.Reaches n name place) :
    ∃ symbol, script.report.find? name = some symbol ∧ symbol.scope.visibleFrom place = true ∧
      ∃ j < n, script.Declares j symbol.heading := by
  obtain ⟨m, before, within, value, visible⟩ := reaches
  obtain ⟨early, found, reached, _⟩ := Table.resolve_eq_visible_iff.mp visible
  have member := Table.mem_headings_of_find? found
  obtain ⟨j, earlier, declares⟩ := declares_of_mem_headings member
  obtain ⟨symbol, still, same⟩ := (script.distinct_stateAt script.size).find?_of_mem_headings
    ((headings_stateAt_mono within).subset member)
  have sameName : early.heading.name = name := Table.name_of_find? found
  have sameScope : symbol.scope = early.scope := congrArg Heading.scope same
  refine ⟨symbol, ?_, ?_, j, by omega, ?_⟩
  · rw [← sameName]
    exact still
  · rw [sameScope]
    exact reached
  · rw [same]
    exact declares

/-- A name that is looked up by the token behind its neighbour, or before, and is not declared where it stands
was declared at an earlier token: its neighbour declares nothing, since no type keyword stands before it. -/
theorem Reaches.exists_declared_before (reaches : script.Reaches n t.text t.scope) (near : n ≤ i + 2)
    (read : script.tokens[i]? = some t) (name : t.isName = true)
    (untyped : ∀ keyword, script.before? i 1 = some keyword → keyword.isType = false) :
    ∃ symbol, script.report.find? t.text = some symbol ∧ symbol.scope.visibleFrom t.scope = true ∧
      ∃ j < i, script.Declares j symbol.heading := by
  obtain ⟨symbol, found, visible, j, before, declares⟩ := reaches.exists_declared
  refine ⟨symbol, found, visible, j, ?_, declares⟩
  obtain ⟨keyword, _, behind, type, _⟩ := declares
  have isType : keyword.isType = true := by simp [Token.isType, type]
  have notHere : j ≠ i := by
    rintro rfl
    simp [untyped keyword behind] at isType
  have notNext : j ≠ i + 1 := by
    rintro rfl
    obtain rfl : t = keyword := by simpa [before?, read] using behind
    simp [Token.isType, (Token.isName_iff.mp name).1, Kind.declares?] at isType
  omega

section

variable (clean : script.report.diagnostics = [])
include clean

/-- Behind an equal sign the assignment finds nothing wrong. -/
theorem clean_assign_of_clean {equals target : Token} (before : script.before? i 1 = some equals)
    (kind : equals.kind = .equals) (assigned : script.before? i 2 = some target)
    (read : script.tokens[i]? = some t) :
    Event.Clean (script.assign (script.stateAt i) i target t).progress.events := by
  have quiet := clean_progressAt clean i
  have notOperator : equals.kind.operator? = none := by
    rw [kind]
    rfl
  rw [progressAt, step_eq_follow (faultless_of_clean clean i).visits before read, follow, notOperator] at quiet
  simp only [kind, if_true, assigned] at quiet
  split at quiet
  · exact (Event.clean_append.mp quiet).1
  · exact quiet

/-- An equal sign does not begin a script, so something stands before it. -/
theorem exists_assigned {equals : Token} (before : script.before? i 1 = some equals)
    (kind : equals.kind = .equals) :
    ∃ k target, i = k + 2 ∧ script.tokens[k]? = some target ∧ script.tokens[k + 1]? = some equals := by
  match i with
  | 0 => cases before
  | 1 =>
    rcases begins_of_clean clean (by simpa [before?] using before) with first | first <;>
      simp [kind, Token.isType, Kind.declares?] at first
  | k + 2 =>
    have sign : script.tokens[k + 1]? = some equals := by simpa [before?] using before
    have inside := (List.getElem?_eq_some_iff.mp sign).1
    exact ⟨k, _, rfl, List.getElem?_eq_getElem (by omega), sign⟩

/-- The name behind an equal sign is looked up from where the target stands. -/
theorem reaches_of_source {equals target : Token} (before : script.before? i 1 = some equals)
    (kind : equals.kind = .equals) (assigned : script.before? i 2 = some target)
    (read : script.tokens[i]? = some t) (single : script.isCallee i = false) (name : t.isName = true) :
    script.Reaches i t.text target.scope := by
  have inside := (List.getElem?_eq_some_iff.mp read).1
  refine ⟨i, Nat.le_refl i, Nat.le_of_lt inside, ?_⟩
  exact visible_of_assign single name (clean_assign_of_clean clean before kind assigned read)

private theorem reaches_of_assigned {equals : Token} (behind : script.tokens[i + 1]? = some equals)
    (kind : equals.kind = .equals) (follows : i + 2 < script.size)
    (read : script.tokens[i]? = some t) : script.Reaches (i + 2) t.text t.scope := by
  obtain ⟨u, next⟩ : ∃ u, script.tokens[i + 2]? = some u := ⟨_, List.getElem?_eq_getElem follows⟩
  have assigns := clean_assign_of_clean (i := i + 2) clean (by simpa [before?] using behind) kind
    (by simpa [before?] using read) next
  refine ⟨i + 2, Nat.le_refl _, Nat.le_of_lt follows, ?_⟩
  apply visible_of_destination _ (destination_clean_of_assign assigns)
  rw [refused_stateAt_of_clean clean]
  exact List.not_mem_nil

private theorem reaches_of_operand {op : Token} (before : script.before? i 1 = some op)
    (operates : op.kind.operator?.isSome) (left : script.hasLeft i = true)
    (read : script.tokens[i]? = some t) (single : script.isCallee i = false) (name : t.isName = true) :
    script.Reaches i t.text t.scope := by
  have inside := (List.getElem?_eq_some_iff.mp read).1
  obtain ⟨operator, isOperator⟩ := Option.isSome_iff_exists.mp operates
  have quiet := clean_progressAt clean i
  rw [progressAt, step_eq_follow (faultless_of_clean clean i).visits before read, follow, isOperator] at quiet
  simp only [combine, left, Bool.not_true, Bool.false_eq_true, if_false] at quiet
  refine ⟨i, Nat.le_refl i, Nat.le_of_lt inside, ?_⟩
  exact visible_of_operand single name (quiet.of_subset (events_subset_useOperand ..))

/-- The name before an operator is what the token behind it is folded into. -/
theorem reaches_of_combined {op : Token} (behind : script.tokens[i + 1]? = some op)
    (operates : op.kind.operator?.isSome) (follows : i + 2 < script.size)
    (read : script.tokens[i]? = some t) (single : script.isCallee i = false) (name : t.isName = true) :
    script.Reaches (i + 2) t.text t.scope := by
  obtain ⟨u, next⟩ : ∃ u, script.tokens[i + 2]? = some u := ⟨_, List.getElem?_eq_getElem follows⟩
  obtain ⟨operator, isOperator⟩ := Option.isSome_iff_exists.mp operates
  have value := Token.isValue_of_isName name
  have before : script.before? (i + 2) 1 = some op := by simpa [before?] using behind
  have left : script.hasLeft (i + 2) = true := by simp [hasLeft, before?, read, Token.endsOperand, value]
  have aim : script.foldTarget (script.stateAt (i + 2)) (i + 2) = some i := by
    rw [foldTarget_stateAt before operates, nearest?_of_kind behind (.inr operates),
      nearest?_value read value single, if_pos name]
  have accepted : i ∉ (script.stateAt (i + 2)).refused := by
    rw [refused_stateAt_of_clean clean]
    exact List.not_mem_nil
  obtain ⟨_, _, _, _, folds, _⟩ := step_reads_and_folds (faultless_of_clean clean (i + 2)).visits before
    isOperator left next aim accepted read (clean_progressAt clean (i + 2))
  obtain ⟨old, visible⟩ := visible_of_fold folds
  refine ⟨i + 2, Nat.le_refl _, Nat.le_of_lt follows, old, ?_⟩
  rw [← visible, (State.notes_notingOperand ..).table]

/-- A name among the arguments of a call is looked up when the call is evaluated. -/
theorem reaches_of_argument {callee close : Nat} (calls : script.isCallee callee = true)
    (unsigned : script.followsSign callee = false) (closes : script.Matches (callee + 1) close)
    (behind : callee + 1 < i) (within : i < close) (read : script.tokens[i]? = some t)
    (single : script.isCallee i = false) (name : t.isName = true) :
    script.Reaches i t.text t.scope := by
  obtain ⟨k, before, u, table, atCallee, isCallee, evaluates, member⟩ :=
    (faultless_of_clean clean (callee + 1)).met callee (mem_evaluated_succ clean calls unsigned)
  have quiet := evaluates.clean (clean_progressAt clean k)
  obtain ⟨⟨e, closed⟩, _⟩ := evaluate_closed isCallee quiet
  -- The call of `callee` has been made on the way, so it closes no later than the call that was evaluated.
  obtain ⟨_, _, call, made, same, _⟩ := ran_evaluate atCallee isCallee quiet callee member
  obtain ⟨_, _, matched⟩ := delimits_evaluate atCallee isCallee call made
  rw [same] at matched
  have upTo := ((ordered_evaluate table u isCallee).up_to_close e closed).2 call made
  rw [matched.unique closes] at upTo
  have visible := visible_of_evaluate isCallee quiet closed (by omega) (by omega) read name single
  have inside := (List.getElem?_eq_some_iff.mp read).1
  rcases evaluates.reads with same | same
  · rw [same] at visible
    exact ⟨k, by omega, by simp only [size]; omega, visible⟩
  · rw [same] at visible
    refine ⟨k + 1, by omega, by simp only [size]; omega, ?_⟩
    rw [stateAt_succ]
    exact visible

end

/-- A call that stands behind no sign is closed. -/
private theorem exists_matches_of_clean (clean : script.report.diagnostics = []) {callee : Nat}
    (calls : script.isCallee callee = true) (unsigned : script.followsSign callee = false) :
    ∃ close, script.Matches (callee + 1) close := by
  have met := (faultless_of_clean clean (callee + 1)).met callee (mem_evaluated_succ clean calls unsigned)
  obtain ⟨_, _, call, made, same, _⟩ := met.ran clean
  obtain ⟨_, _, matched⟩ := delimits_run_invocations script call made
  rw [same] at matched
  exact ⟨call.close, matched⟩

/-! ### The names that are used and those that are not -/

section

variable (clean : script.report.diagnostics = []) (read : script.tokens[i]? = some t) (name : t.isName = true)
include clean read name

private theorem kind_before_name (untyped : ∀ keyword, script.before? i 1 = some keyword → keyword.isType = false)
    {previous : Token} (before : script.before? i 1 = some previous) :
    previous.kind ∈ [.openScope, .closeScope, .semicolon, .openParen, .closeParen, .comma] ∨
      previous.kind = .equals ∨ previous.kind.operator?.isSome := by
  have notType := untyped previous before
  have kind := (Token.isName_iff.mp name).1
  by_cases unguarded : script.Unguarded i
  · rcases unguarded with signed | ⟨⟨current, found, semicolon⟩, _⟩
    · right; right
      simpa [followsSign, before] using (Bool.and_eq_true_iff.mp signed).1
    · obtain rfl : t = current := by simpa [read] using found
      simp [kind] at semicolon
  · have follows := mayFollow_of_clean_step (faultless_of_clean clean i).visits before read unguarded
      (clean_progressAt clean i)
    cases previousKind : previous.kind <;>
      simp_all [Kind.mayFollow, Kind.isValue, Token.isType, Kind.declares?, Kind.operator?]

private theorem kind_behind_name (single : script.isCallee i = false) {next : Token}
    (behind : script.tokens[i + 1]? = some next) :
    next.kind ∈ [.semicolon, .closeParen, .comma, .equals, .plus, .minus] := by
  have kind := (Token.isName_iff.mp name).1
  have before : script.before? (i + 1) 1 = some t := by simpa [before?] using read
  have guarded : ¬ script.Unguarded (i + 1) := by
    rintro (signed | ⟨_, previous, found, opens⟩)
    · simp [followsSign, before, kind, Kind.operator?] at signed
    · obtain rfl : t = previous := by simpa [before] using found
      simp [kind] at opens
  have follows := mayFollow_of_clean_step (faultless_of_clean clean (i + 1)).visits before behind guarded
    (clean_progressAt clean (i + 1))
  have closed : next.kind ≠ .openParen := fun opens => by
    simp [isCallee_iff.mpr ⟨t, next, read, name, behind, opens⟩] at single
  cases nextKind : next.kind <;> simp_all [Kind.mayFollow, Kind.isValue, Kind.endsStatement, Kind.isScope]

/-- In a script without diagnostics a name that neither is a callee nor stands behind a type keyword or a sign is
used, or it stands by itself. -/
theorem used_or_alone (single : script.isCallee i = false)
    (untyped : ∀ keyword, script.before? i 1 = some keyword → keyword.isType = false)
    (unsigned : ¬ script.BehindSign i) : script.Used i ∨ script.Alone i := by
  by_cases used : script.Used i
  · exact .inl used
  refine .inr ⟨fun previous before => ?behind, fun next behind => ?before, fun callee inCall => ?outside⟩
  case behind =>
    rcases kind_before_name clean read name untyped before with kind | kind | operates
    · exact kind
    · exact absurd (.source before kind) used
    · have left : script.hasLeft i = true := by
        by_contra lacking
        exact unsigned (.inl (by simp [followsSign, before, operates, lacking]))
      exact absurd (.operand before operates left) used
  case before =>
    have kind := kind_behind_name clean read name single behind
    have inside := (List.getElem?_eq_some_iff.mp behind).1
    by_cases follows : i + 2 < script.size
    · have notEquals : next.kind ≠ .equals := fun kind => used (.assigned behind kind follows)
      have notOperator : ¬ next.kind.operator?.isSome := fun operates => used (.combined behind operates follows)
      left
      cases nextKind : next.kind <;> simp_all [Kind.operator?]
    · have last : i + 2 = script.size := by
        simp only [size] at follows ⊢
        omega
      simp only [List.mem_cons, List.not_mem_nil, or_false] at kind
      rcases kind with kind | kind | kind | kind | kind | kind <;> simp [kind, last]
  case outside =>
    have apart : script.followsSign callee = false :=
      Bool.eq_false_iff.mpr fun signed => unsigned (.inr ⟨callee, inCall, signed⟩)
    obtain ⟨close, matched⟩ := exists_matches_of_clean clean inCall.calls apart
    -- The name is neither of the two parentheses, so it stands between them.
    obtain ⟨_, first, opens⟩ := matched.opening
    obtain ⟨_, last, closes⟩ := matched.closing
    have notOpening : callee + 1 ≠ i := ne_of_isName read name first (by simp [opens])
    have notClosing : close ≠ i := ne_of_isName read name last (by simp [closes])
    have unclosed : ¬ close < i := fun before => inCall.unclosed close before matched
    have behind := inCall.same.le
    exact used (.argument inCall.calls apart matched (by omega) (by omega))

end

/-! ### The names of a source -/

/-- In a source the name behind an equal sign stands where the target does. -/
theorem reaches_of_source_here {natives : Registry} {source : String} {equals : Token}
    (clean : (checkSource natives source).diagnostics = [])
    (before : Script.before? ⟨tokenize source, natives⟩ i 1 = some equals) (kind : equals.kind = .equals)
    (read : (tokenize source)[i]? = some t)
    (single : Script.isCallee ⟨tokenize source, natives⟩ i = false) (name : t.isName = true) :
    Script.Reaches ⟨tokenize source, natives⟩ i t.text t.scope := by
  obtain ⟨k, target, rfl, assigned, sign⟩ := exists_assigned clean before kind
  have place : t.scope = target.scope := by
    rw [scope_getElem?_succ sign read (by rw [(Token.isName_iff.mp name).1]; rfl),
      scope_getElem?_succ assigned sign (by rw [kind]; rfl)]
  rw [place]
  exact reaches_of_source clean before kind (by simpa [before?] using assigned) read single name

/-- In a source without diagnostics a name that is used and not declared where it stands was declared at an
earlier token, and can be reached from there. A name that stands by itself is not looked up: with any other name in
its place the report is the same. There are no other names but those behind a sign. -/
theorem used_declared {natives : Registry} {source : String} {i : Nat} {t : Token}
    (clean : (checkSource natives source).diagnostics = [])
    (read : (tokenize source)[i]? = some t) (name : t.isName = true)
    (single : Script.isCallee ⟨tokenize source, natives⟩ i = false)
    (untyped : ∀ keyword, Script.before? ⟨tokenize source, natives⟩ i 1 = some keyword →
      keyword.isType = false) :
    (Script.Used ⟨tokenize source, natives⟩ i →
      ∃ symbol, (checkSource natives source).find? t.text = some symbol ∧
        symbol.scope.visibleFrom t.scope = true ∧
        ∃ j < i, Script.Declares ⟨tokenize source, natives⟩ j symbol.heading) ∧
      (Script.Alone ⟨tokenize source, natives⟩ i → ∀ other : Token, other.isName = true →
        Script.report ⟨(tokenize source).set i other, natives⟩ = checkSource natives source) ∧
      (¬ Script.BehindSign ⟨tokenize source, natives⟩ i →
        Script.Used ⟨tokenize source, natives⟩ i ∨ Script.Alone ⟨tokenize source, natives⟩ i) := by
  have earlier : ∀ n ≤ i + 2, Script.Reaches ⟨tokenize source, natives⟩ n t.text t.scope →
      ∃ symbol, (checkSource natives source).find? t.text = some symbol ∧
        symbol.scope.visibleFrom t.scope = true ∧
        ∃ j < i, Script.Declares ⟨tokenize source, natives⟩ j symbol.heading := by
    intro n near reaches
    exact reaches.exists_declared_before near read name untyped
  refine ⟨fun used => ?used, fun alone other isName => ?alone, used_or_alone clean read name single untyped⟩
  case used =>
    cases used with
    | source before kind =>
      exact earlier _ (by omega) (reaches_of_source_here clean before kind read single name)
    | assigned behind kind follows =>
      exact earlier _ (Nat.le_refl _) (reaches_of_assigned clean behind kind follows read)
    | operand before operates left =>
      exact earlier _ (by omega) (reaches_of_operand clean before operates left read single name)
    | combined behind operates follows =>
      exact earlier _ (Nat.le_refl _) (reaches_of_combined clean behind operates follows read single name)
    | argument calls unsigned closes behind within =>
      exact earlier _ (by omega)
        (reaches_of_argument clean calls unsigned closes behind within read single name)
  case alone => exact congrArg Progress.report (run_replacing alone read name single isName clean)

/-- The argument of a call in a block was declared outside of the block. Behind the call any name may stand by
itself. -/
theorem used_declared_outside :
    let source : String := "int n = 1; { string s = toString(n); x; }"
    let script : Script := ⟨tokenize source, Builtin.registry⟩
    let other : Token := ⟨.identifier, "y", 1, ⟨1, 1⟩, ⟨37, 38⟩⟩
    script.Matches 10 12 ∧
      (∃ symbol, (checkSource Builtin.registry source).find? "n" = some symbol ∧
        symbol.scope.visibleFrom ⟨1, 1⟩ = true ∧ ∃ j < 11, script.Declares j symbol.heading) ∧
      Script.report ⟨(tokenize source).set 14 other, Builtin.registry⟩ =
        checkSource Builtin.registry source := by
  intro source script other
  have closes : script.Matches 10 12 := by
    refine ⟨by decide, ⟨⟨.openParen, "(", 1, ⟨1, 1⟩, ⟨32, 33⟩⟩, by decide +kernel, rfl⟩,
      ⟨⟨.closeParen, ")", 1, ⟨1, 1⟩, ⟨34, 35⟩⟩, by decide +kernel, rfl⟩, ?_, by decide +kernel⟩
    intro r later within
    obtain rfl | rfl : r = 11 ∨ r = 12 := by omega
    · decide +kernel
    · decide +kernel
  have clean : (checkSource Builtin.registry source).diagnostics = [] := by decide +kernel
  have calls : script.isCallee 9 = true := by decide +kernel
  have used : script.Used 11 := .argument calls (by decide +kernel) closes (by decide) (by decide)
  have alone : script.Alone 14 := by
    refine ⟨by decide +kernel, fun next behind => .inl ?_, fun callee inCall => ?_⟩
    · have same : some next = some ⟨.semicolon, ";", 1, ⟨1, 1⟩, ⟨38, 39⟩⟩ := behind.symm.trans (by decide +kernel)
      obtain rfl := Option.some.inj same
      decide
    have only : ∀ callee < 14, script.isCallee callee = true → callee = 9 := by decide +kernel
    obtain rfl := only callee inCall.same.le inCall.calls
    exact inCall.unclosed 12 (by decide) closes
  refine ⟨closes, (used_declared (t := ⟨.identifier, "n", 1, ⟨1, 1⟩, ⟨33, 34⟩⟩) clean ?_ ?_ ?_ ?_).1 used,
    (used_declared (t := ⟨.identifier, "x", 1, ⟨1, 1⟩, ⟨37, 38⟩⟩) clean ?_ ?_ ?_ ?_).2.1 alone other ?_⟩ <;>
    decide +kernel

/-- A name that stands by itself is not looked up. -/
theorem undeclared_by_itself :
    ¬ ∀ (natives : Registry) (source : String) (i : Nat) (t : Token),
      (checkSource natives source).diagnostics = [] → (tokenize source)[i]? = some t →
      t.isName = true → Script.isCallee ⟨tokenize source, natives⟩ i = false →
      (∀ keyword, Script.before? ⟨tokenize source, natives⟩ i 1 = some keyword →
        keyword.isType = false) →
      ∃ symbol, (checkSource natives source).find? t.text = some symbol ∧
        symbol.scope.visibleFrom t.scope = true ∧
        ∃ j < i, Script.Declares ⟨tokenize source, natives⟩ j symbol.heading := by
  intro always
  obtain ⟨symbol, found, _⟩ := always Builtin.registry "{ x; }" 1
    ⟨.identifier, "x", 1, ⟨1, 1⟩, ⟨2, 3⟩⟩ (by decide +kernel) (by decide +kernel) (by decide +kernel)
    (by decide +kernel) (by decide +kernel)
  have none : (checkSource Builtin.registry "{ x; }").find? "x" = none := by decide +kernel
  rw [none] at found
  cases found

end Script

end ScriptCheck
