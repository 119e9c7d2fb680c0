import ScriptCheck.Proofs.Run.Clean

/-! # Terms that have a value

Where every variable that a term reads can be reached and every function that it calls gives a value, the check
evaluates the term to its value and finds nothing wrong (`Term.clean_pass`). The readings of a term without a
finding are in `Term.pass_clean`; here is the converse, as far as an operand needs it: a call that is an operand
is evaluated to the end (`Script.clean_evaluate`), and an operand that has a value is read
(`Script.clean_operand_of_yields`).
-/

namespace ScriptCheck

private theorem Token.kind_of_no_literal {t : Token} (value : t.isValue = true) (none : t.literal? = none) :
    t.kind = .identifier := by
  have either : t.kind = .identifier ∨ t.kind = .stringLiteral := by
    simpa [isValue, Kind.isValue] using value
  refine either.resolve_right fun quoted => ?_
  rw [literal?, Option.or_eq_none_iff, Option.map_eq_none_iff, contents?, if_pos quoted] at none
  obtain ⟨_, noContents⟩ := none
  split at noContents
  · split at noContents <;> cases noContents
  · cases noContents

private theorem Registry.has_of_value? {natives : Registry} {name : String} {args : List Value} {value : Value}
    (gives : natives.value? name args = some value) : natives.has name = true := by
  unfold value? call at gives
  unfold has
  split at gives
  · cases found : natives.find? name with
    | some native => rfl
    | none =>
      rename_i replied
      rw [found] at replied
      cases replied
  · cases gives

/-- A complete call whose function gives a value runs it, and nothing is found wrong. -/
theorem Frame.run_of_value? {natives : Registry} {frame : Frame} {value : Value} (position : Nat)
    (complete : frame.complete = true) (gives : natives.value? frame.name frame.args = some value) :
    (frame.run natives position).1 = .value value ∧ Event.Clean (frame.run natives position).2 := by
  have known := Registry.has_of_value? gives
  unfold Registry.value? at gives
  unfold run
  rw [known, complete]
  split at gives
  · rename_i reply replied
    simp only [replied, Invocation.outcome, gives]
    exact ⟨rfl, rfl⟩
  · cases gives

mutual

/-- Every variable that the term reads can be reached from where it is read. -/
def Term.Reached (table : Table) : Term → Prop
  | .single t _ => t.literal? = none → ∃ value, table.resolve t.text t.scope = .visible value
  | .bare _ _ _ _ => True
  | .call _ _ _ args _ => args.Reached table

def Arguments.Reached (table : Table) : Arguments → Prop
  | .last term => term.Reached table
  | .more term _ rest => term.Reached table ∧ rest.Reached table

end

/-- The term has a value: its variables can be reached and its functions give values. -/
def Term.Yields (natives : Registry) (table : Table) (term : Term) (value : Value) : Prop :=
  term.Reached table ∧ term.value? natives table = some value

variable {natives : Registry} {table : Table}

/-! ### Passing a term that has a value -/

private theorem Frame.clean_take {frame : Frame} {t : Token} {position : Nat}
    (reached : t.literal? = none → ∃ value, table.resolve t.text t.scope = .visible value) :
    Event.Clean (frame.take table ⟨position, t⟩).2 := by
  unfold take
  split
  · rfl
  · rename_i noLiteral
    obtain ⟨value, visible⟩ := reached noLiteral
    dsimp only
    rw [visible]
    rfl

/-- A call whose function gives a value hands it to the call around it without a finding. -/
theorem Passage.clean_close {inner : Passage} {frame : Frame} {position : Nat} {value : Value}
    (clean : Event.Clean inner.events) (complete : inner.frame.complete = true)
    (gives : natives.value? inner.frame.name inner.frame.args = some value) :
    Event.Clean (Passage.close natives position frame inner).events := by
  obtain ⟨outcome, ran⟩ := Frame.run_of_value? position complete gives
  rw [close, Event.clean_append, Event.clean_append, outcome]
  exact ⟨clean, ran, rfl⟩

mutual

/-- A term that has a value is passed without a finding. -/
theorem Term.clean_pass (term : Term) {position : Nat} {frame : Frame} {value : Value}
    (reached : term.Reached table) (has : term.value? natives table = some value) :
    Event.Clean (term.pass natives table position frame).events := by
  cases term with
  | single t isValue => exact Frame.clean_take reached
  | bare callee name opening close => exact Passage.clean_close rfl rfl has
  | call callee name opening args close =>
    obtain ⟨values, held, gives⟩ := Option.bind_eq_some_iff.mp has
    have clean : Event.Clean (args.pass natives table (position + 2)
        (Passage.enter ⟨position, callee⟩).frame).events := Arguments.clean_pass args reached held
    obtain ⟨others, same, frame_eq⟩ := Arguments.pass_clean args clean
    obtain rfl := Option.some.inj (held.symm.trans same)
    let entered := Passage.enter ⟨position, callee⟩
    have inner : (entered.behind (args.pass natives table (position + 2) entered.frame)).frame =
        ⟨⟨position, callee⟩, values, true⟩ := frame_eq
    exact Passage.clean_close (Event.clean_append.mpr ⟨rfl, clean⟩) (by rw [inner]) (by rw [inner]; exact gives)

/-- Arguments that have values are passed without a finding. -/
theorem Arguments.clean_pass (args : Arguments) {position : Nat} {frame : Frame}
    {values : List Value} (reached : args.Reached table) (has : args.values? natives table = some values) :
    Event.Clean (args.pass natives table position frame).events := by
  cases args with
  | last term =>
    obtain ⟨value, one, _⟩ := Option.map_eq_some_iff.mp has
    exact Term.clean_pass term reached one
  | more term comma rest =>
    obtain ⟨value, one, has⟩ := Option.bind_eq_some_iff.mp has
    obtain ⟨others, more, _⟩ := Option.map_eq_some_iff.mp has
    exact Event.clean_append.mpr
      ⟨Term.clean_pass term reached.1 one, Arguments.clean_pass rest reached.2 more⟩

end

/-! ### Operands of a script -/

namespace Script

variable {script : Script} {p : Nat} {term : Term} {value : Value}

/-- A call that gives a value is evaluated without a finding. -/
theorem clean_evaluate (stands : script.Stands p term.tokens) (callee : script.isCallee p = true)
    (apart : ∀ t, script.tokens[p + term.tokens.length]? = some t → t.kind ≠ .openParen)
    (yields : term.Yields script.natives table value) :
    Event.Clean (script.evaluate table p term.head).events := by
  obtain ⟨reached, has⟩ := yields
  cases term with
  | single t _ =>
    obtain ⟨_, u, _, _, next, opens⟩ := isCallee_iff.mp callee
    exact absurd opens (apart u next)
  | bare callee name opening close =>
    have gives : script.natives.value? (Frame.name ⟨⟨p, callee⟩, [], true⟩) [] = some value := has
    rw [Term.head, evaluate_bare table stands]
    exact (Frame.run_of_value? (p + 2) rfl gives).2
  | call callee name opening args close =>
    obtain ⟨values, held, gives⟩ := Option.bind_eq_some_iff.mp has
    have clean : Event.Clean (args.pass script.natives table (p + 2)
        (Passage.enter ⟨p, callee⟩).frame).events := Arguments.clean_pass args reached held
    obtain ⟨others, same, frame_eq⟩ := Arguments.pass_clean args clean
    obtain rfl := Option.some.inj (held.symm.trans same)
    rw [Term.head, evaluate_call table stands, closing, Passage.behind, frame_eq]
    refine Event.clean_append.mpr ⟨Event.clean_append.mpr ⟨rfl, clean⟩, ?_⟩
    exact (Frame.run_of_value? _ rfl gives).2

/-- An operand that has a value is read without a finding. -/
theorem clean_operand_of_yields {op : Token} (stands : script.Stands p term.tokens)
    (apart : ∀ t, script.tokens[p + term.tokens.length]? = some t → t.kind ≠ .openParen)
    (yields : term.Yields script.natives table value) :
    Event.Clean (script.operand table p op term.head).events := by
  cases calls : script.isCallee p with
  | true =>
    have clean := clean_evaluate stands calls apart yields
    obtain ⟨closed, _, outcome⟩ := evaluate_clean stands calls apart clean
    rw [yields.2] at outcome
    simp only [Script.operand, calls, if_true, outcome, closed]
    exact clean
  | false =>
    obtain ⟨t, isValue, rfl⟩ := exists_single stands calls
    simp only [Script.operand, calls, Bool.false_eq_true, if_false, Term.head]
    cases literal : t.literal? with
    | some value => rfl
    | none =>
      have identifier := Token.kind_of_no_literal isValue literal
      obtain ⟨value, visible⟩ := yields.1 literal
      simp only [identifier, ne_eq, not_true_eq_false, if_false, visible]
      rfl

end Script

end ScriptCheck
