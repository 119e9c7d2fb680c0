import ScriptCheck.Proofs.Part.Statements
import ScriptCheck.Proofs.Run.Located

/-! # Braces

A brace is checked against the token before it and against nothing else: before a brace a statement has ended, and
a script begins with no closing brace (`Script.braceProblem?`). No rule counts the blocks that are open. So braces
that are not balanced are found wrong where one of them stands in the middle of a statement, and otherwise not at
all: behind the end of a statement further braces leave the report as it is (`Script.report_append_ends`).
-/

namespace ScriptCheck

/-- A brace is no value. -/
theorem Token.not_isValue_of_isScope {t : Token} (brace : t.kind.isScope = true) : ¬ t.isValue = true := by
  intro value
  have inside := not_endsStatement_of_isValue value
  rw [Kind.endsStatement, brace] at inside
  cases inside

private theorem Kind.endsStatement_of_isScope {kind : Kind} (brace : kind.isScope = true) :
    kind.endsStatement = true := by
  rw [endsStatement, brace]
  rfl

namespace Script

variable {script : Script} {state : State} {i : Nat} {previous brace t : Token}

/-- What is wrong with a brace at position `i`, as far as the token before it tells. -/
def braceProblem? (script : Script) (i : Nat) (brace : Token) : Option Problem :=
  match script.before? i 1 with
  | none => if brace.kind = .closeScope then some (.badStart brace.text) else none
  | some previous =>
    if previous.kind.endsStatement then none
    else some (if previous.kind.operator?.isSome then .adjacent previous.text brace.text
      else .unfinishedStatement previous.line)

/-- The position is that of the operand of an operator that has no left one. -/
def LacksLeft (script : Script) (i : Nat) : Prop :=
  (∃ op ∈ script.before? i 1, op.kind.operator?.isSome) ∧ script.hasLeft i = false

instance (script : Script) (i : Nat) : Decidable (script.LacksLeft i) := inferInstanceAs (Decidable (_ ∧ _))

/-! ### Tokens that are no value -/

theorem not_isCallee_of_not_isValue (read : script.tokens[i]? = some t) (notValue : ¬ t.isValue = true) :
    ¬ script.isCallee i = true := by
  apply not_isCallee_of_kind read
  intro kind
  simp [Token.isValue, Kind.isValue, kind] at notValue

/-- What is no value is no operand. -/
theorem operand_of_not_isValue (read : script.tokens[i]? = some t) (notValue : ¬ t.isValue = true)
    (table : Table) (op : Token) : script.operand table i op t =
      { operand := none, events := [.reported ⟨⟨i, t⟩, .adjacent op.text t.text⟩] } := by
  have notName : t.kind ≠ .identifier := by
    intro kind
    simp [Token.isValue, Kind.isValue, kind] at notValue
  have noLiteral : t.literal? = none := by
    by_contra literal
    obtain ⟨value, isLiteral⟩ := Option.ne_none_iff_exists'.mp literal
    exact notValue (Token.isValue_of_literal? isLiteral)
  rw [operand, if_neg (not_isCallee_of_not_isValue read notValue), noLiteral]
  exact if_pos notName

/-! ### The step at a brace -/

section

variable (isBrace : brace.kind.isScope = true)
include isBrace

private theorem checkGrammar_brace : script.checkGrammar state i previous brace =
    if previous.kind.endsStatement then state.idle
    else state.report ⟨i, brace⟩ (.unfinishedStatement previous.line) := by
  rcases (by simpa [Kind.isScope] using isBrace : brace.kind = .openScope ∨ brace.kind = .closeScope) with
    kind | kind <;> rw [checkGrammar, kind]

variable (read : script.tokens[i]? = some brace)
include read

private theorem assign_brace (target : Token) : script.assign state i target brace =
    ⟨⟨state, (state.destination (i - 2) target ⟨i, brace⟩).2⟩, true⟩ := by
  have notValue := Token.not_isValue_of_isScope isBrace
  have notMisplaced : ¬ brace.kind.isMisplacedSource = true := by
    cases kind : brace.kind <;> simp [kind, Kind.isScope] at isBrace <;> decide
  rw [assign, if_neg (not_isCallee_of_not_isValue read notValue), if_pos (by simpa using notValue), if_neg notMisplaced]

/-- A brace in the middle of a statement is reported, unless it stands behind an operator without a left operand. -/
theorem reported_follow (goesOn : previous.kind.endsStatement = false)
    (left : previous.kind.operator?.isSome → script.hasLeft i = true) :
    (⟨⟨i, brace⟩, if previous.kind.operator?.isSome then .adjacent previous.text brace.text
      else .unfinishedStatement previous.line⟩ : Finding) ∈ (script.follow state i previous brace).findings := by
  have grammar (state : State) : script.checkGrammar state i previous brace =
      state.report ⟨i, brace⟩ (.unfinishedStatement previous.line) := by
    rw [checkGrammar_brace isBrace, if_neg (by simp [goesOn])]
  unfold follow
  cases operates : previous.kind.operator? with
  | some operator =>
    rw [operates] at left
    simp [combine, left, operand_of_not_isValue read (Token.not_isValue_of_isScope isBrace), useOperand,
      Progress.findings, Event.finding?]
  | none =>
    dsimp only
    split
    · simp [grammar, Progress.findings, Event.finding?]
    · simp [assign_brace isBrace read, grammar, Progress.findings, Event.finding?]

end

/-- At the end of a statement that follows the end of a statement nothing happens. -/
theorem step_ends (read : script.tokens[i]? = some t) (ends : t.kind.endsStatement = true)
    (before : script.before? i 1 = some previous) (ended : previous.kind.endsStatement = true) :
    script.step state i = state.idle := by
  by_cases ahead : state.resume ≤ i
  · have notEquals : previous.kind ≠ .equals := by
      intro kind
      simp [kind, Kind.endsStatement, Kind.isScope] at ended
    rw [step_eq_follow ahead before read, follow_eq_checkGrammar t (Kind.operator?_of_endsStatement ended) notEquals]
    cases isBrace : t.kind.isScope with
    | true => rw [checkGrammar_brace isBrace, if_pos ended]
    | false =>
      have kind : t.kind = .semicolon := by simpa [Kind.endsStatement, isBrace] using ends
      simp [checkGrammar, kind, State.endStatement, ended]
  · exact step_eq_idle fun passes => ahead passes.1

private theorem mem_findings_brace (read : script.tokens[i]? = some brace) (isBrace : brace.kind.isScope = true)
    {problem : Problem} (wrong : script.braceProblem? i brace = some problem) (left : ¬ script.LacksLeft i) :
    (⟨⟨i, brace⟩, problem⟩ : Finding) ∈ (script.progressAt i).findings := by
  have ahead := resume_stateAt_le read (Kind.endsStatement_of_isScope isBrace) i (Nat.le_succ i)
  unfold braceProblem? at wrong
  cases before : script.before? i 1 with
  | none =>
    have closing : brace.kind = .closeScope ∧ Problem.badStart brace.text = problem := by simpa [before] using wrong
    obtain ⟨kind, rfl⟩ := closing
    rw [progressAt, step, if_neg (Nat.not_lt.mpr ahead), read, before]
    simp [State.begin, kind, Token.isType, Kind.declares?, Progress.findings, Event.finding?]
  | some previous =>
    cases ended : previous.kind.endsStatement with
    | true => simp [before, ended] at wrong
    | false =>
      have isProblem : (if previous.kind.operator?.isSome then .adjacent previous.text brace.text
          else .unfinishedStatement previous.line) = problem := by
        simpa [before, ended] using wrong
      have leftOperand : previous.kind.operator?.isSome → script.hasLeft i = true := by
        intro operates
        by_contra lacking
        exact left ⟨⟨previous, before, operates⟩, Bool.eq_false_iff.mpr lacking⟩
      rw [progressAt, step_eq_follow ahead before read, ← isProblem]
      exact reported_follow isBrace read ended leftOperand

private theorem findings_brace_eq_nil (read : script.tokens[i]? = some brace) (isBrace : brace.kind.isScope = true)
    (fine : script.braceProblem? i brace = none) : (script.progressAt i).findings = [] := by
  have ends := Kind.endsStatement_of_isScope isBrace
  unfold braceProblem? at fine
  cases before : script.before? i 1 with
  | none =>
    have opening : brace.kind = .openScope := by
      have notClosing : brace.kind ≠ .closeScope := by simpa [before] using fine
      simpa [Kind.isScope, notClosing] using isBrace
    have ahead := resume_stateAt_le read ends i (Nat.le_succ i)
    rw [progressAt, step, if_neg (Nat.not_lt.mpr ahead), read, before]
    simp [State.begin, opening, Progress.findings]
  | some previous =>
    have ended : previous.kind.endsStatement = true := by
      by_contra goesOn
      simp [before, goesOn] at fine
    rw [progressAt, step_ends read ends before ended]
    rfl

/-! ### Further ends of statements -/

private theorem steps_eq_idle {positions : List Nat} (idle : ∀ i ∈ positions, script.step state i = state.idle) :
    script.steps state positions = state.idle := by
  induction positions with
  | nil => rfl
  | cons i rest ih =>
    obtain ⟨first, others⟩ := List.forall_mem_cons.mp idle
    rw [steps, first]
    exact ih others

/-- Behind the end of a statement further semicolons and braces leave the report as it is. -/
theorem report_append_ends {natives : Registry} {front behind : List Token} {last : Token}
    (ended : front.getLast? = some last) (ends : last.kind.endsStatement = true)
    (closing : ∀ t ∈ behind, t.kind.endsStatement = true) :
    Script.report ⟨front ++ behind, natives⟩ = Script.report ⟨front, natives⟩ := by
  obtain ⟨init, rfl⟩ := List.getLast?_eq_some_iff.mp ended
  have goesOn : Report.GoesOn (Script.report ⟨init ++ [last], natives⟩) _ _ := report_append ends behind
  generalize Script.report ⟨init ++ [last], natives⟩ = before at goesOn ⊢
  have nothing : continuation natives ⟨before.symbols⟩ last behind = ⟨[], before.symbols, []⟩ := by
    have all : ∀ t ∈ last :: behind, t.kind.endsStatement = true := List.forall_mem_cons.mpr ⟨ends, closing⟩
    rw [continuation, steps_eq_idle]
    · rfl
    · intro i member
      obtain ⟨first, inside⟩ := List.mem_range'_1.mp member
      obtain ⟨k, rfl⟩ : ∃ k, i = k + 1 := ⟨i - 1, by omega⟩
      have here : k + 1 < (last :: behind).length := by simpa using by omega
      have before : k < (last :: behind).length := by omega
      exact step_ends (List.getElem?_eq_getElem here) (all _ (List.getElem_mem here))
        (List.getElem?_eq_getElem before) (all _ (List.getElem_mem before))
  rw [nothing] at goesOn
  generalize Script.report ⟨init ++ [last] ++ behind, natives⟩ = whole at goesOn ⊢
  obtain ⟨diagnostics, operations, symbols, _⟩ := goesOn
  cases whole
  cases before
  simpa [and_assoc] using And.intro diagnostics (And.intro symbols operations)

/-! ### Reports -/

/-- A brace that stands in the middle of a statement is reported, and so is a closing brace that the script begins
with; behind an operator this takes a left operand. At every other brace nothing is found wrong, however many blocks
are open there: behind a semicolon or a brace further braces leave the report as it is. -/
theorem braces_reported (natives : Registry) (source : String) :
    let script : Script := ⟨tokenize source, natives⟩
    let report := checkSource natives source
    (∀ i brace, script.tokens[i]? = some brace → brace.kind.isScope = true →
      (∀ problem, script.braceProblem? i brace = some problem → ¬ script.LacksLeft i →
        (⟨⟨i, brace⟩, problem⟩ : Finding).diagnostic ∈ report.diagnostics) ∧
      (script.braceProblem? i brace = none → ∀ d ∈ report.diagnostics, d.span ≠ brace.span)) ∧
    ∀ other behind last, (tokenize source).getLast? = some last → last.kind.endsStatement = true →
      tokenize other = tokenize source ++ behind → (∀ t ∈ behind, t.kind.isScope = true) →
      checkSource natives other = report := by
  intro script report
  refine ⟨fun i brace read isBrace => ⟨fun problem wrong left => ?_, fun fine d reported same => ?_⟩, ?_⟩
  · have inside : i < script.size := (List.getElem?_eq_some_iff.mp read).1
    have found := mem_findings_brace read isBrace wrong left
    apply List.mem_map_of_mem
    rw [findings_run]
    exact List.mem_flatMap.mpr ⟨i, List.mem_range.mpr inside, found⟩
  · obtain ⟨finding, found, rfl⟩ := List.mem_map.mp reported
    rw [findings_run] at found
    obtain ⟨j, _, atStep⟩ := List.mem_flatMap.mp found
    have located := script.located_step _ j finding atStep
    -- The finding is at the brace itself, which is no value, so it is made by the step there.
    have position : finding.site.position = i := position_eq_of_span_eq located.read read same
    have token : finding.site.token = brace := by simpa [position, read] using located.read.symm
    have own : finding.site.position = j := by
      by_contra elsewhere
      exact Token.not_isValue_of_isScope isBrace (token ▸ located.value elsewhere)
    obtain rfl : j = i := own.symm.trans position
    rw [findings_brace_eq_nil read isBrace fine] at atStep
    cases atStep
  · intro other behind last ended ends split braces
    change Script.report ⟨tokenize other, natives⟩ = _
    rw [split]
    exact report_append_ends ended ends fun t member => Kind.endsStatement_of_isScope (braces t member)

/-- Behind an unfinished declaration a block is closed that was never opened. The second brace that closes too much
is not reported, and neither is the block that is left open behind it. -/
theorem braces_reported_once :
    let source := "int a\n\x7d\x7d"
    let report := checkSource Builtin.registry source
    let first : Token := ⟨.closeScope, "\x7d", 2, ⟨-1, 1⟩, ⟨6, 7⟩⟩
    let second : Token := ⟨.closeScope, "\x7d", 2, ⟨-2, 2⟩, ⟨7, 8⟩⟩
    (tokenize source)[2]? = some first ∧ (tokenize source)[3]? = some second ∧
      ⟨2, first.span, "Finish the statement at line 1 first."⟩ ∈ report.diagnostics ∧
      (∀ d ∈ report.diagnostics, d.span ≠ second.span) ∧
      checkSource Builtin.registry "int a\n\x7d\x7d \x7b" = report := by
  intro source report first second
  obtain ⟨atBraces, further⟩ := braces_reported Builtin.registry source
  have readFirst : (tokenize source)[2]? = some first := by decide +kernel
  have readSecond : (tokenize source)[3]? = some second := by decide +kernel
  have ended : (tokenize source).getLast? = some second := by decide +kernel
  have longer : tokenize "int a\n\x7d\x7d \x7b" =
      tokenize source ++ [⟨.openScope, "\x7b", 2, ⟨-1, 3⟩, ⟨9, 10⟩⟩] := by decide +kernel
  refine ⟨readFirst, readSecond, ?_, ?_, ?_⟩
  · exact (atBraces 2 first readFirst rfl).1 (.unfinishedStatement 1) (by decide +kernel) (by decide +kernel)
  · exact (atBraces 3 second readSecond rfl).2 (by decide +kernel)
  · exact further _ _ second ended rfl longer (by decide)

/-- A closing brace takes the depth below zero and the script closes more blocks than it opens, yet nothing is
reported. -/
theorem unbalanced_unreported :
    let source := "int a; \x7d"
    (∃ t ∈ tokenize source, t.scope.depth < 0) ∧
      (tokenize source).countP (fun t => t.kind == .openScope) ≠
        (tokenize source).countP (fun t => t.kind == .closeScope) ∧
      (checkSource Builtin.registry source).diagnostics = [] := by
  decide +kernel

end Script

end ScriptCheck
