import ScriptCheck.Native.Builtin
import ScriptCheck.Proofs.Run.Reporting

/-! # One finding at a position

The rules fall through into one another, and yet a token that is no callee is not reported twice. Each rule finds at
most one thing wrong, at its own token (`Event.OneOf`), and a rule that has found something wrong leaves nothing to
find for the next one. The exception is the token behind an equal sign: something may be wrong with the target of the
assignment and, after that, with its source (`Script.no_cascade`).
-/

namespace ScriptCheck

namespace Problem

def isMalformed : Problem → Bool
  | unclosedCall _ | expectedSeparator _ _ | expectedArgument _ _ => true
  | _ => false

def ofTarget (target : Token) : List Problem :=
  [.hidden target.text, .constantTarget target.text, .literalTarget target.text, .unknownTarget target.text]

/-- What can be wrong with the source `current` of an assignment to `target`, its type included. -/
def ofSource (target current : Token) : List Problem :=
  [.unknownSource current.text target.text, .hidden current.text, .sourceType current.asSource target.text]

/-- What can be wrong with the place of a token behind `previous`. -/
def ofGrammar (previous current : Token) : List Problem :=
  [.unfinishedStatement previous.line, .missingDefinition previous.line, .missingSource previous.line,
    .misplacedEquals previous.text, .misplacedType previous.text, .adjacent previous.text current.text]

def ofDeclaration (name : Token) : List Problem := [.invalidName name.text, .redeclared name.text]

theorem not_isMalformed_of_target {target : Token} {problem : Problem} (wrong : problem ∈ ofTarget target) :
    problem.isMalformed = false := by
  simp only [ofTarget, List.mem_cons, List.not_mem_nil, or_false] at wrong
  rcases wrong with rfl | rfl | rfl | rfl <;> rfl

theorem not_isMalformed_of_source {target current : Token} {problem : Problem}
    (wrong : problem ∈ ofSource target current) : problem.isMalformed = false := by
  simp only [ofSource, List.mem_cons, List.not_mem_nil, or_false] at wrong
  rcases wrong with rfl | rfl | rfl <;> rfl

theorem not_isMalformed_of_grammar {previous current : Token} {problem : Problem}
    (wrong : problem ∈ ofGrammar previous current) : problem.isMalformed = false := by
  simp only [ofGrammar, List.mem_cons, List.not_mem_nil, or_false] at wrong
  rcases wrong with rfl | rfl | rfl | rfl | rfl | rfl <;> rfl

theorem not_isMalformed_of_declaration {name : Token} {problem : Problem} (wrong : problem ∈ ofDeclaration name) :
    problem.isMalformed = false := by
  simp only [ofDeclaration, List.mem_cons, List.not_mem_nil, or_false] at wrong
  rcases wrong with rfl | rfl <;> rfl

end Problem

variable {site : Site} {P Q : Problem → Prop} {events first second : List Event}

/-- At most one thing is found wrong, at the site and with this property. -/
def Event.OneOf (site : Site) (P : Problem → Prop) (events : List Event) : Prop :=
  Clean events ∨ ∃ problem, P problem ∧ events.filterMap finding? = [⟨site, problem⟩]

namespace Event.OneOf

private theorem nil : OneOf site P [] := .inl rfl

private theorem reported {problem : Problem} (holds : P problem) : OneOf site P [.reported ⟨site, problem⟩] :=
  .inr ⟨problem, holds, rfl⟩

private theorem imp (one : OneOf site P events) (implies : ∀ problem, P problem → Q problem) : OneOf site Q events := by
  rcases one with clean | ⟨problem, holds, found⟩
  · exact .inl clean
  · exact .inr ⟨problem, implies problem holds, found⟩

/-- Nothing is found wrong before. -/
theorem after (one : OneOf site P second) (clean : Clean first) : OneOf site P (first ++ second) := by
  unfold OneOf Clean at *
  rwa [List.filterMap_append, clean, List.nil_append]

private theorem length_le (one : OneOf site P events) : (events.filterMap finding?).length ≤ 1 := by
  rcases one with clean | ⟨problem, _, found⟩
  · rw [clean]
    exact Nat.zero_le 1
  · rw [found]
    exact Nat.le_refl 1

theorem forall_mem (one : OneOf site P events) :
    ∀ finding ∈ events.filterMap finding?, finding.site = site ∧ P finding.problem := by
  rcases one with clean | ⟨problem, holds, found⟩
  · rw [clean]
    exact List.forall_mem_nil _
  · rw [found]
    simpa using holds

end Event.OneOf

/-! ### Rules that look at the variables only -/

namespace State

variable (state : State) (site : Site)

private theorem oneOf_report {problem : Problem} (holds : P problem) :
    Event.OneOf site P (state.report site problem).events :=
  .reported holds

theorem oneOf_destination (position : Nat) (target : Token) :
    Event.OneOf site (· ∈ Problem.ofTarget target) (state.destination position target site).2 := by
  unfold destination
  split
  · exact .nil
  split
  · exact .nil
  · exact .reported (by simp [Problem.ofTarget])
  · apply Event.OneOf.reported
    split
    · simp [Problem.ofTarget]
    · split <;> simp [Problem.ofTarget]

private theorem oneOf_store (target : String) (value : Value) (mismatch : Problem) :
    Event.OneOf site (· = mismatch) (state.store site target value mismatch).progress.events := by
  unfold store
  split
  · exact .nil
  split
  · exact .inl rfl
  · exact state.oneOf_report site rfl

theorem oneOf_storeOutcome (target : String) (outcome : Outcome) :
    Event.OneOf site (fun problem => problem = .voidSource site.token.text target ∨
      problem = .resultType site.token.text target) (state.storeOutcome site target outcome).events := by
  cases outcome with
  | failed => exact .nil
  | void => exact state.oneOf_report site (.inl rfl)
  | value value => exact (state.oneOf_store site target value _).imp fun _ same => .inr same

private theorem oneOf_fold (operator : Operator) (op target : Token) (value : Value) :
    Event.OneOf site (·.isMalformed = false) (state.fold site operator op target value).events := by
  unfold fold
  split
  · exact state.oneOf_report site rfl
  · exact state.oneOf_report site rfl
  split
  · exact state.oneOf_report site rfl
  split
  · exact state.oneOf_report site rfl
  · exact .inl rfl

theorem oneOf_declare (type : ValueType) :
    Event.OneOf site (· ∈ Problem.ofDeclaration site.token) (state.declare site type).events := by
  unfold declare
  dsimp only
  split
  · exact state.oneOf_report site (by simp [Problem.ofDeclaration])
  split
  · exact .inl rfl
  · exact oneOf_report _ site (by simp [Problem.ofDeclaration])

private theorem oneOf_endStatement (previous : Token) :
    Event.OneOf site (· ∈ Problem.ofGrammar previous site.token) (state.endStatement site previous).events := by
  unfold endStatement
  repeat' split
  all_goals first | exact .nil | exact state.oneOf_report site (by simp [Problem.ofGrammar])

theorem oneOf_begin : Event.OneOf site (·.isMalformed = false) (state.begin site).events := by
  unfold begin
  split
  · exact .nil
  · exact state.oneOf_report site rfl

end State

namespace Script

/-- Something is wrong with the target of the assignment whose source stands at position `i`. -/
def AboutTarget (script : Script) (i : Nat) (problem : Problem) : Prop :=
  ∃ target, script.before? i 2 = some target ∧ problem ∈ Problem.ofTarget target

/-- Something is wrong with the source of the assignment, `current`, or with its place behind the equal sign. -/
def AboutSource (script : Script) (i : Nat) (equals current : Token) (problem : Problem) : Prop :=
  problem ∈ Problem.ofGrammar equals current ∨
    ∃ target, script.before? i 2 = some target ∧ problem ∈ Problem.ofSource target current

variable {script : Script} {state : State} {i : Nat} {previous current : Token}

theorem oneOf_foldAt (script : Script) (state : State) (i target : Nat) (operator : Operator) (op current : Token)
    (value : Value) : Event.OneOf ⟨i, current⟩ (·.isMalformed = false)
      (script.foldAt state i target operator op current value).events := by
  unfold foldAt
  split
  · exact .nil
  split
  · exact .nil
  · exact state.oneOf_fold ⟨i, current⟩ operator op _ value

/-! ### Rules for a token that is no callee -/

section

variable (single : script.isCallee i = false)
include single

private theorem oneOf_operand (table : Table) (op current : Token) :
    Event.OneOf ⟨i, current⟩ (·.isMalformed = false) (script.operand table i op current).events := by
  unfold operand
  rw [if_neg (by simp [single])]
  split
  · exact .nil
  split
  · exact .reported rfl
  split
  · exact .nil
  · exact .reported rfl
  · exact .reported rfl

private theorem oneOf_combine (operator : Operator) (op : Token) :
    Event.OneOf ⟨i, current⟩ (·.isMalformed = false) (script.combine state i operator op current).events := by
  unfold combine useOperand
  split
  · exact .nil
  dsimp only
  split
  · rename_i value _
    exact (oneOf_foldAt script _ i _ operator op current _).after (clean_operand value)
  · exact oneOf_operand single state.table op current

private theorem oneOf_enterValue : Event.OneOf ⟨i, current⟩
    (fun problem => problem ∈ Problem.ofGrammar previous current ∨
      previous.isType = true ∧ problem ∈ Problem.ofDeclaration current)
    (script.enterValue state i previous current).events := by
  unfold enterValue
  split
  · exact state.oneOf_report _ (.inl (by simp [Problem.ofGrammar]))
  simp only [single, Bool.false_and, Bool.false_eq_true, if_false]
  cases declares : previous.kind.declares? with
  | none => exact .nil
  | some type =>
    have isType : previous.isType = true := by simp [Token.isType, declares]
    exact (state.oneOf_declare ⟨i, current⟩ type).imp fun _ wrong => .inr ⟨isType, wrong⟩

private theorem oneOf_checkGrammar : Event.OneOf ⟨i, current⟩
    (fun problem => problem ∈ Problem.ofGrammar previous current ∨
      previous.isType = true ∧ problem ∈ Problem.ofDeclaration current)
    (script.checkGrammar state i previous current).events := by
  unfold checkGrammar
  dsimp only
  split
  case h_1 | h_2 | h_4 | h_5 | h_6 | h_7 =>
    split
    · exact .nil
    · exact state.oneOf_report _ (.inl (by simp [Problem.ofGrammar]))
  case h_3 => exact (state.oneOf_endStatement ⟨i, current⟩ previous).imp fun _ => .inl
  case h_8 | h_9 => exact oneOf_enterValue single
  all_goals exact .nil

/-- An assignment first finds something wrong with its target, then with its source. The rules of the grammar come
next only for what is no source, or for a value. -/
theorem events_assign (state : State) (target current : Token) : ∃ rest,
    (script.assign state i target current).progress.events =
        (state.destination (i - 2) target ⟨i, current⟩).2 ++ rest ∧
      Event.OneOf ⟨i, current⟩ (· ∈ Problem.ofSource target current) rest ∧
      ((script.assign state i target current).continues = true → current.isValue = true ∨ rest = []) := by
  unfold assign
  rw [if_neg (by simp [single])]
  dsimp only
  split
  · rename_i noValue
    split
    · exact ⟨_, rfl, .reported (by simp [Problem.ofSource]), fun continues => nomatch continues⟩
    · exact ⟨[], (List.append_nil _).symm, .nil, fun _ => .inr rfl⟩
  · rename_i value
    have value : current.isValue = true := by simpa using value
    split
    · exact ⟨_, rfl, .reported (by simp [Problem.ofSource]), fun _ => .inl value⟩
    · exact ⟨_, rfl, .reported (by simp [Problem.ofSource]), fun _ => .inl value⟩
    · split
      · exact ⟨[], (List.append_nil _).symm, .nil, fun _ => .inl value⟩
      · rename_i name settled
        obtain ⟨rfl, _⟩ := State.destination_eq_some settled
        refine ⟨_, rfl, (state.oneOf_store _ target.text _ _).imp ?_, fun _ => .inl value⟩
        rintro _ rfl
        simp [Problem.ofSource]

/-- Behind an equal sign the rules of the grammar apply where the rule for an assignment has found nothing wrong with
the source, or they find nothing. -/
theorem events_follow_behind_equals {equals : Token} (kind : equals.kind = .equals) : ∃ aim rest,
    (script.follow state i equals current).events = aim ++ rest ∧
      Event.OneOf ⟨i, current⟩ (script.AboutTarget i) aim ∧
      Event.OneOf ⟨i, current⟩ (script.AboutSource i equals current) rest := by
  have notType : ¬ equals.isType = true := by simp [Token.isType, kind, Kind.declares?]
  have notOperator : equals.kind.operator? = none := by
    rw [kind]
    rfl
  have grammar (state : State) : Event.OneOf ⟨i, current⟩ (script.AboutSource i equals current)
      (script.checkGrammar state i equals current).events :=
    (oneOf_checkGrammar single).imp fun _ wrong => .inl (wrong.resolve_right fun declared => notType declared.1)
  unfold follow
  rw [notOperator, if_pos kind]
  cases assigned : script.before? i 2 with
  | none => exact ⟨[], _, (List.nil_append _).symm, .nil, grammar state⟩
  | some target =>
    obtain ⟨rest, events, ofSource, continues⟩ := events_assign single state target current
    have aim : Event.OneOf ⟨i, current⟩ (script.AboutTarget i)
        (state.destination (i - 2) target ⟨i, current⟩).2 :=
      (state.oneOf_destination ⟨i, current⟩ (i - 2) target).imp fun _ wrong => ⟨target, assigned, wrong⟩
    have source : Event.OneOf ⟨i, current⟩ (script.AboutSource i equals current) rest :=
      ofSource.imp fun _ wrong => .inr ⟨target, assigned, wrong⟩
    dsimp only
    split
    · rename_i goesOn
      rcases continues goesOn with value | nothing
      · rw [checkGrammar_behind_equals kind value single]
        exact ⟨_, rest, by simp [events], aim, source⟩
      · exact ⟨_, _, by rw [Progress.after_events, events, nothing, List.append_nil], aim, grammar _⟩
    · exact ⟨_, rest, events, aim, source⟩

/-- Behind any other token there is one rule, and it finds at most one thing wrong. -/
theorem oneOf_follow (notEquals : previous.kind ≠ .equals) :
    Event.OneOf ⟨i, current⟩ (·.isMalformed = false) (script.follow state i previous current).events := by
  cases operates : previous.kind.operator? with
  | some operator =>
    rw [follow, operates]
    exact oneOf_combine single operator previous
  | none =>
    rw [follow_eq_checkGrammar current operates notEquals]
    exact (oneOf_checkGrammar single).imp fun _ wrong =>
      wrong.elim Problem.not_isMalformed_of_grammar fun declares => Problem.not_isMalformed_of_declaration declares.2

end

/-! ### Steps -/

section

variable (read : script.tokens[i]? = some current) (single : script.isCallee i = false)
include read single

theorem oneOf_step (state : State)
    (notEquals : ∀ previous, script.before? i 1 = some previous → previous.kind ≠ .equals) :
    Event.OneOf ⟨i, current⟩ (·.isMalformed = false) (script.step state i).events := by
  by_cases ahead : state.resume ≤ i
  · cases before : script.before? i 1 with
    | none =>
      rw [step, if_neg (Nat.not_lt.mpr ahead), read, before]
      exact state.oneOf_begin _
    | some previous =>
      rw [step_eq_follow ahead before read]
      exact oneOf_follow single (notEquals previous before)
  · rw [step_eq_idle fun passes => ahead passes.1]
    exact .nil

theorem events_step_behind_equals (state : State) {equals : Token} (before : script.before? i 1 = some equals)
    (kind : equals.kind = .equals) : ∃ aim rest, (script.step state i).events = aim ++ rest ∧
      Event.OneOf ⟨i, current⟩ (script.AboutTarget i) aim ∧
      Event.OneOf ⟨i, current⟩ (script.AboutSource i equals current) rest := by
  by_cases ahead : state.resume ≤ i
  · rw [step_eq_follow ahead before read]
    exact events_follow_behind_equals single kind
  · rw [step_eq_idle fun passes => ahead passes.1]
    exact ⟨[], [], rfl, .nil, .nil⟩

end

/-- A token that is no callee is reported at most once. The token behind an equal sign can be reported twice: at most
once for the target of the assignment, and then at most once for its own value, its type or its place. -/
theorem no_cascade (script : Script) (state : State) {i : Nat} {current : Token}
    (read : script.tokens[i]? = some current) (single : script.isCallee i = false) :
    let findings := (script.step state i).findings
    (∀ finding ∈ findings, finding.site = ⟨i, current⟩) ∧
      ((∀ previous, script.before? i 1 = some previous → previous.kind ≠ .equals) → findings.length ≤ 1) ∧
      ∀ equals, script.before? i 1 = some equals → equals.kind = .equals →
        ∃ aim rest, findings = aim ++ rest ∧ aim.length ≤ 1 ∧ rest.length ≤ 1 ∧
          (∀ finding ∈ aim, script.AboutTarget i finding.problem) ∧
          ∀ finding ∈ rest, script.AboutSource i equals current finding.problem := by
  intro findings
  have others := oneOf_step read single state
  refine ⟨?sites, fun notEquals => (others notEquals).length_le, ?source⟩
  case sites =>
    by_cases notEquals : ∀ previous, script.before? i 1 = some previous → previous.kind ≠ .equals
    · exact fun finding member => ((others notEquals).forall_mem finding member).1
    · push Not at notEquals
      obtain ⟨equals, before, kind⟩ := notEquals
      obtain ⟨aim, rest, events, aimed, sourced⟩ := events_step_behind_equals read single state before kind
      intro finding member
      change finding ∈ (script.step state i).events.filterMap Event.finding? at member
      rw [events, List.filterMap_append, List.mem_append] at member
      rcases member with member | member
      · exact (aimed.forall_mem finding member).1
      · exact (sourced.forall_mem finding member).1
  case source =>
    intro equals before kind
    obtain ⟨aim, rest, events, aimed, sourced⟩ := events_step_behind_equals read single state before kind
    refine ⟨aim.filterMap Event.finding?, rest.filterMap Event.finding?, ?_, aimed.length_le, sourced.length_le,
      ?_, ?_⟩
    · change (script.step state i).events.filterMap Event.finding? = _
      rw [events, List.filterMap_append]
    · exact fun finding member => (aimed.forall_mem finding member).2
    · exact fun finding member => (sourced.forall_mem finding member).2

/-- A numeral is assigned a name that is not declared: both are reported where the name stands. -/
theorem bad_target_and_source :
    let script : Script := ⟨tokenize "\x7b 1 = b; \x7d", Builtin.registry⟩
    let equals : Token := ⟨.equals, "=", 1, ⟨1, 1⟩, ⟨4, 5⟩⟩
    let source : Token := ⟨.identifier, "b", 1, ⟨1, 1⟩, ⟨6, 7⟩⟩
    let findings := (script.step (script.stateAt 3) 3).findings
    findings.map Finding.problem = [.constantTarget "1", .unknownSource "b" "1"] ∧
      ∃ aim rest, findings = aim ++ rest ∧ aim.length ≤ 1 ∧ rest.length ≤ 1 ∧
        (∀ finding ∈ aim, script.AboutTarget 3 finding.problem) ∧
        ∀ finding ∈ rest, script.AboutSource 3 equals source finding.problem := by
  intro script equals source findings
  have read : script.tokens[3]? = some source := by decide +kernel
  have before : script.before? 3 1 = some equals := by decide +kernel
  have single : script.isCallee 3 = false := by decide +kernel
  have problems : findings.map Finding.problem = [.constantTarget "1", .unknownSource "b" "1"] := by decide +kernel
  obtain ⟨_, _, twice⟩ := script.no_cascade (script.stateAt 3) read single
  exact ⟨problems, twice equals before rfl⟩

end Script

end ScriptCheck
