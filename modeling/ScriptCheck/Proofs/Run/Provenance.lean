import ScriptCheck.Proofs.Call.Provenance
import ScriptCheck.Proofs.Run.Headings

/-! # Where the events of a run come from

`Event.Made` lists what the rules can record at one position: a declaration and a second one behind a type keyword,
a value behind an equal sign, the result of an operator, and calls and findings in the statement. Every event of a
step is one of these (`Script.made_step`). So a property of all literals, fresh variables, results of operators and
replies is one of every value that a check stores, passes or gets back (`Script.made_run`), and what is known of
single events, where they stand and what they show, is a matter of cases.
-/

namespace ScriptCheck

/-- What the rules record at position `i`, where the values come from have the property. -/
inductive Event.Made (script : Script) (P : Value → Prop) (i : Nat) : Event → Prop
  /-- The name behind a type keyword is declared. -/
  | declared {t : Token} {type : ValueType} (read : script.tokens[i]? = some t)
      (declares : script.Declares i ⟨t.text, type, t.scope⟩) : Made script P i (.declared ⟨i, t⟩ type)
  /-- The name behind a type keyword is declared a second time. -/
  | redeclared {t : Token} {type : ValueType} (read : script.tokens[i]? = some t)
      (declares : script.Declares i ⟨t.text, type, t.scope⟩) :
      Made script P i (.reported ⟨⟨i, t⟩, .redeclared t.text⟩)
  /-- The token two positions before is assigned to. -/
  | stored {t target : Token} {value : Value} (read : script.tokens[i]? = some t)
      (assigned : script.before? i 2 = some target) (holds : P value) :
      Made script P i (.stored ⟨i, t⟩ target.text value)
  /-- The operator before the token changes a variable. -/
  | folded {t op target : Token} {result : Value} (read : script.tokens[i]? = some t)
      (before : script.before? i 1 = some op) (named : target ∈ script.tokens) (holds : P result) :
      Made script P i (.folded ⟨i, t⟩ target.text op.text result)
  | passive {event : Event} (changesNothing : event.Passive script P i) : Made script P i event

/-- The variables hold values with the property, and the rules at position `i` have made the events. -/
structure Progress.Made (script : Script) (P : Value → Prop) (i : Nat) (progress : Progress) : Prop where
  table : progress.state.table.OnlyHolds P
  events : ∀ event ∈ progress.events, event.Made script P i

variable {script : Script} {P : Value → Prop} {i : Nat} {t : Token}

private theorem Progress.Made.after {progress : Progress} (made : progress.Made script P i) {events : List Event}
    (earlier : ∀ event ∈ events, event.Made script P i) : (progress.after events).Made script P i :=
  ⟨made.table, List.forall_mem_append.mpr ⟨earlier, made.events⟩⟩

private theorem Script.mem_of_before? {back : Nat} (before : script.before? i back = some t) : t ∈ script.tokens := by
  unfold before? at before
  split at before
  · exact List.mem_of_getElem? before
  · cases before

/-- A problem that shows texts of the script is reported at the token. -/
theorem Event.made_reported (read : script.tokens[i]? = some t) {problem : Problem}
    (shown : ∀ text ∈ problem.texts, script.Shows text) (quiet : problem.voidFunction? = none)
    (single : problem.isRedeclared = false) :
    ∀ event ∈ [Event.reported ⟨⟨i, t⟩, problem⟩], event.Made script P i :=
  fun event member => .passive (passive_reported (.here read) shown quiet single event member)

/-! ### Rules that look at one token -/

namespace State

variable {state : State}

private theorem made_idle (holds : state.table.OnlyHolds P) : state.idle.Made script P i :=
  ⟨holds, List.forall_mem_nil _⟩

section

variable (read : script.tokens[i]? = some t)
include read

private theorem made_destination {target : Token} (named : target ∈ script.tokens) (position : Nat) :
    ∀ event ∈ (state.destination position target ⟨i, t⟩).2, event.Made script P i := by
  have name := script.shows_text named
  unfold destination
  split
  · exact List.forall_mem_nil _
  split
  · exact List.forall_mem_nil _
  · exact Event.made_reported read (by simpa [Problem.texts] using name) rfl rfl
  · dsimp only
    split
    · exact Event.made_reported read (by simpa [Problem.texts] using name) rfl rfl
    split
    · exact Event.made_reported read (by simpa [Problem.texts] using name) rfl rfl
    · exact Event.made_reported read (by simpa [Problem.texts] using name) rfl rfl

variable (holds : state.table.OnlyHolds P)
include holds

private theorem made_report {problem : Problem} (shown : ∀ text ∈ problem.texts, script.Shows text)
    (quiet : problem.voidFunction? = none) (single : problem.isRedeclared = false) :
    (state.report ⟨i, t⟩ problem).Made script P i :=
  ⟨holds, Event.made_reported read shown quiet single⟩

private theorem made_store {target : Token} (assigned : script.before? i 2 = some target) {value : Value}
    (property : P value) {mismatch : Problem} (shown : ∀ text ∈ mismatch.texts, script.Shows text)
    (quiet : mismatch.voidFunction? = none) (single : mismatch.isRedeclared = false) :
    (state.store ⟨i, t⟩ target.text value mismatch).progress.Made script P i := by
  unfold store
  split
  · exact made_idle holds
  split
  · exact ⟨holds.change fun _ => property, List.forall_mem_singleton.mpr (.stored read assigned property)⟩
  · exact made_report read holds shown quiet single

private theorem made_storeOutcome {target : Token} (assigned : script.before? i 2 = some target) {outcome : Outcome}
    (gave : outcome.Grounded script.natives P t.text) :
    (state.storeOutcome ⟨i, t⟩ target.text outcome).Made script P i := by
  have shown := And.intro (script.shows_text (List.mem_of_getElem? read))
    (script.shows_text (Script.mem_of_before? assigned))
  cases outcome with
  | failed => exact made_idle holds
  | void =>
    refine ⟨holds, fun event member => .passive ?_⟩
    exact Event.passive_void (.here read) (by simpa [Problem.texts] using shown) rfl gave rfl event member
  | value value => exact made_store read holds assigned gave (by simpa [Problem.texts] using shown) rfl rfl

private theorem made_fold (supplies : script.Supplies P) {op target : Token} (before : script.before? i 1 = some op)
    (named : target ∈ script.tokens) (operator : Operator) {value : Value} (property : P value) :
    (state.fold ⟨i, t⟩ operator op target value).Made script P i := by
  have text := script.shows_text (List.mem_of_getElem? read)
  have sign := script.shows_text (Script.mem_of_before? before)
  have name := script.shows_text named
  unfold fold
  split
  · exact made_report read holds (by simpa [Problem.texts] using name) rfl rfl
  · exact made_report read holds (by simpa [Problem.texts] using ⟨sign, name⟩) rfl rfl
  · rename_i old visible
    split
    · exact made_report read holds (by simpa [Problem.texts] using ⟨text, name⟩) rfl rfl
    split
    · exact made_report read holds (by simp [Problem.texts]) rfl rfl
    · rename_i result applies
      have changed := supplies.apply operator old value result (holds.resolve visible) property applies
      exact ⟨holds.change fun _ => changed, List.forall_mem_singleton.mpr (.folded read before named changed)⟩

private theorem made_declare (supplies : script.Supplies P) {keyword : Token} {type : ValueType}
    (before : script.before? i 1 = some keyword) (declares : keyword.kind.declares? = some type) :
    (state.declare ⟨i, t⟩ type).Made script P i := by
  have text := script.shows_text (List.mem_of_getElem? read)
  unfold declare
  dsimp only
  split
  · exact made_report read holds (by simpa [Problem.texts] using text) rfl rfl
  · rename_i isName
    have heading : script.Declares i ⟨t.text, type, t.scope⟩ :=
      ⟨keyword, t, before, declares, read, by simpa using isName, rfl, rfl⟩
    split
    · rename_i larger declared
      refine ⟨holds.declare (supplies.zero type) declared, ?_⟩
      exact List.forall_mem_singleton.mpr (.declared read heading)
    · exact ⟨holds, List.forall_mem_singleton.mpr (.redeclared read heading)⟩

private theorem made_endStatement (previous : Token) : (state.endStatement ⟨i, t⟩ previous).Made script P i := by
  unfold endStatement
  split
  · exact made_idle holds
  split
  · exact made_report read holds (by simp [Problem.texts]) rfl rfl
  split
  · exact made_report read holds (by simp [Problem.texts]) rfl rfl
  · exact made_idle holds

private theorem made_begin : (state.begin ⟨i, t⟩).Made script P i := by
  unfold begin
  split
  · exact made_idle holds
  · have text := script.shows_text (List.mem_of_getElem? read)
    exact made_report read holds (by simpa [Problem.texts] using text) rfl rfl

end

end State

/-! ### Rules that evaluate a call -/

namespace Script

private theorem made_evaluate (supplies : script.Supplies P) {table : Table} (holds : table.OnlyHolds P)
    (read : script.tokens[i]? = some t) (callee : script.isCallee i = true) :
    (∀ event ∈ (script.evaluate table i t).events, event.Made script P i) ∧
      (script.evaluate table i t).outcome.Grounded script.natives P t.text := by
  obtain ⟨told, gave⟩ := passive_evaluate supplies holds callee read
  exact ⟨fun event member => .passive (told event member), gave⟩

section

variable {state : State} (supplies : script.Supplies P) (holds : state.table.OnlyHolds P)
  (read : script.tokens[i]? = some t)
include supplies holds read

private theorem made_foldAt {op : Token} (before : script.before? i 1 = some op) (target : Nat) (operator : Operator)
    {value : Value} (property : P value) :
    (script.foldAt state i target operator op t value).Made script P i := by
  unfold foldAt
  split
  · exact State.made_idle holds
  split
  · exact State.made_idle holds
  · rename_i left found
    exact State.made_fold read holds supplies before (List.mem_of_getElem? found) operator property

private theorem made_useOperand {op : Token} (before : script.before? i 1 = some op) (operator : Operator)
    {result : OperandResult} (told : ∀ event ∈ result.events, event.Made script P i)
    (property : ∀ operand, result.operand = some operand → P operand.value) :
    (script.useOperand state i operator op t result).Made script P i := by
  unfold useOperand
  split
  · rename_i operand target isOperand _
    refine Progress.Made.after (made_foldAt supplies ?_ read before target operator ?_) told
    · exact holds
    · exact property operand isOperand
  · exact ⟨holds, told⟩

private theorem made_operand {op : Token} (before : script.before? i 1 = some op) :
    (∀ event ∈ (script.operand state.table i op t).events, event.Made script P i) ∧
      ∀ operand, (script.operand state.table i op t).operand = some operand → P operand.value := by
  have text := script.shows_text (List.mem_of_getElem? read)
  unfold operand
  dsimp only
  split
  · rename_i callee
    obtain ⟨told, gave⟩ := made_evaluate supplies holds read callee
    split
    · rename_i value last outcome _
      rw [outcome] at gave
      refine ⟨told, fun operand same => ?_⟩
      obtain rfl := Option.some.inj same
      exact gave
    · rename_i outcome
      rw [outcome] at gave
      refine ⟨List.forall_mem_append.mpr ⟨told, fun event member => .passive ?_⟩, by simp⟩
      exact Event.passive_void (.here read) (by simpa [Problem.texts] using text) rfl gave rfl event member
    · exact ⟨told, by simp⟩
  split
  · rename_i value literal
    refine ⟨List.forall_mem_nil _, fun operand same => ?_⟩
    obtain rfl := Option.some.inj same
    exact supplies.literal t (List.mem_of_getElem? read) value literal
  split
  · have sign := script.shows_text (mem_of_before? before)
    exact ⟨Event.made_reported read (by simpa [Problem.texts] using ⟨sign, text⟩) rfl rfl, by simp⟩
  split
  · rename_i value visible
    refine ⟨List.forall_mem_nil _, fun operand same => ?_⟩
    obtain rfl := Option.some.inj same
    exact holds.resolve visible
  · exact ⟨Event.made_reported read (by simpa [Problem.texts] using text) rfl rfl, by simp⟩
  · exact ⟨Event.made_reported read (by simpa [Problem.texts] using text) rfl rfl, by simp⟩

private theorem made_combine {op : Token} (before : script.before? i 1 = some op) (operator : Operator) :
    (script.combine state i operator op t).Made script P i := by
  unfold combine
  dsimp only
  split
  · exact State.made_idle holds
  · obtain ⟨told, property⟩ := made_operand supplies holds read before
    have noted := state.notes_notingOperand (script.operand state.table i op t)
    exact made_useOperand supplies (by rw [noted.table]; exact holds) read before operator told property

private theorem made_assign {target : Token} (assigned : script.before? i 2 = some target) :
    (script.assign state i target t).progress.Made script P i := by
  have here := List.mem_of_getElem? read
  have named := mem_of_before? assigned
  have text := script.shows_text here
  have name := script.shows_text named
  have settled : ∀ event ∈ (state.destination (i - 2) target ⟨i, t⟩).2, event.Made script P i :=
    State.made_destination read named (i - 2)
  unfold assign
  dsimp only
  split
  · rename_i callee
    obtain ⟨told, gave⟩ := made_evaluate supplies holds read callee
    refine Progress.Made.after ?_ (List.forall_mem_append.mpr ⟨settled, told⟩)
    split
    · rename_i destination found
      obtain ⟨rfl, _⟩ := State.destination_eq_some found
      refine State.made_storeOutcome read ?_ assigned gave
      exact holds
    · exact ⟨holds, List.forall_mem_nil _⟩
  split
  · split
    · exact (State.made_report read holds (by simpa [Problem.texts] using ⟨text, name⟩) rfl rfl).after settled
    · exact ⟨holds, settled⟩
  split
  · exact (State.made_report read holds (by simpa [Problem.texts] using text) rfl rfl).after settled
  · exact (State.made_report read holds (by simpa [Problem.texts] using ⟨text, name⟩) rfl rfl).after settled
  · rename_i value visible
    have property : P value := by
      split at visible
      · rename_i literal isLiteral
        cases visible
        exact supplies.literal t here value isLiteral
      · exact holds.resolve visible
    have source : script.Shows t.asSource.text := by
      unfold Token.asSource
      split
      · rename_i contents found
        exact ⟨t, here, .inr found⟩
      · exact text
    split
    · exact ⟨holds, settled⟩
    · rename_i destination found
      obtain ⟨rfl, _⟩ := State.destination_eq_some found
      have shown := And.intro source name
      refine Progress.Made.after ?_ settled
      exact State.made_store read holds assigned property (by simpa [Problem.texts] using shown) rfl rfl

omit holds in
private theorem made_evaluateFresh {declared : Progress} (made : declared.Made script P i) :
    (script.evaluateFresh i t declared).Made script P i := by
  unfold evaluateFresh
  split
  · rename_i fresh
    obtain ⟨told, _⟩ := made_evaluate supplies made.table read (Bool.and_eq_true_iff.mp fresh).1
    exact ⟨made.table, List.forall_mem_append.mpr ⟨made.events, told⟩⟩
  · exact made

private theorem made_enterValue {previous : Token} (before : script.before? i 1 = some previous) :
    (script.enterValue state i previous t).Made script P i := by
  rw [enterValue_eq]
  split
  · have shown := And.intro (script.shows_text (mem_of_before? before))
      (script.shows_text (List.mem_of_getElem? read))
    exact State.made_report read holds (by simpa [Problem.texts] using shown) rfl rfl
  · apply made_evaluateFresh supplies read
    split
    · rename_i type declares
      exact State.made_declare read holds supplies before declares
    · exact State.made_idle holds

private theorem made_checkGrammar {previous : Token} (before : script.before? i 1 = some previous) :
    (script.checkGrammar state i previous t).Made script P i := by
  have text := script.shows_text (mem_of_before? before)
  unfold checkGrammar
  dsimp only
  split
  case h_1 | h_2 =>
    split
    · exact State.made_idle holds
    · exact State.made_report read holds (by simp [Problem.texts]) rfl rfl
  case h_4 | h_5 | h_6 | h_7 =>
    split
    · exact State.made_idle holds
    · exact State.made_report read holds (by simpa [Problem.texts] using text) rfl rfl
  case h_3 => exact State.made_endStatement read holds previous
  case h_8 | h_9 => exact made_enterValue supplies holds read before
  all_goals exact State.made_idle holds

private theorem made_follow {previous : Token} (before : script.before? i 1 = some previous) :
    (script.follow state i previous t).Made script P i := by
  unfold follow
  split
  · exact made_combine supplies holds read before _
  split
  · exact made_checkGrammar supplies holds read before
  · rename_i target found
    have assigned : script.before? i 2 = some target := by
      split at found
      · exact found
      · cases found
    have made := made_assign supplies holds read assigned
    dsimp only
    split
    · exact (made_checkGrammar supplies made.table read before).after made.events
    · exact made

end

/-! ### Steps and runs -/

/-- What a step records the rules have made, if the variables before it hold values with the property. -/
theorem made_step (supplies : script.Supplies P) {state : State} (holds : state.table.OnlyHolds P) (i : Nat) :
    (script.step state i).Made script P i := by
  unfold step
  split
  · exact State.made_idle holds
  split
  · exact State.made_idle holds
  · rename_i current read
    split
    · exact State.made_begin read holds
    · rename_i previous before
      exact made_follow supplies holds read before

/-- What the variables of a run hold has the property. -/
theorem holds_stateAt (supplies : script.Supplies P) (i : Nat) : (script.stateAt i).table.OnlyHolds P := by
  refine script.stateAt_induct (motive := fun _ state => state.table.OnlyHolds P) ?start ?step i
  case start =>
    intro symbol member
    cases member
  case step =>
    intro i holds
    exact (made_step supplies holds i).table

/-- What a run records the rules have made at its positions: a property of all literals, fresh variables, results of
operators and replies is one of every value that is stored or passed to a function. -/
theorem made_run (supplies : script.Supplies P) : ∀ event ∈ script.run.events, ∃ i, event.Made script P i := by
  rw [run_events]
  intro event member
  obtain ⟨i, _, happened⟩ := List.mem_flatMap.mp member
  exact ⟨i, (made_step supplies (holds_stateAt supplies i) i).events event happened⟩

/-! ### Single events -/

variable {call : Invocation} {finding : Finding}

theorem located_of_made (made : Event.Made script P i (.reported finding)) :
    script.LocatedFrom i finding.site := by
  cases made with
  | redeclared read _ => exact .here read
  | passive changesNothing =>
    cases changesNothing with
    | found located _ _ => exact located

private theorem grounded_of_made (made : Event.Made script P i (.reported finding)) :
    finding.problem.Grounded script := by
  cases made with
  | redeclared read _ =>
    exact ⟨by simpa [Problem.texts] using script.shows_text (List.mem_of_getElem? read), nofun⟩
  | passive changesNothing =>
    cases changesNothing with
    | found _ grounded _ => exact grounded

theorem declares_of_made (made : Event.Made script P i (.reported finding))
    (second : finding.problem.isRedeclared = true) : ∃ heading, script.Declares i heading := by
  cases made with
  | redeclared _ declares => exact ⟨_, declares⟩
  | passive changesNothing =>
    cases changesNothing with
    | found _ _ single => exact absurd second (by simp [single])

/-- A call of a run whose function was run has the reply that the registry gives. -/
theorem ran_of_mem_invocations (script : Script) (member : call ∈ script.run.invocations)
    (ran : call.reply.isSome = true) : call.Ran script.natives := by
  obtain ⟨_, made⟩ := made_run script.supplies_true _ (Event.mem_invocations_iff.mp member)
  cases made with
  | passive changesNothing =>
    cases changesNothing with
    | called _ _ replied => exact replied ran

/-- What is found wrong in a run is grounded. -/
theorem grounded_of_mem_findings (script : Script) (found : finding ∈ script.run.findings) :
    finding.problem.Grounded script := by
  obtain ⟨_, made⟩ := made_run script.supplies_true _ (Event.mem_findings_iff.mp found)
  exact grounded_of_made made

end Script

end ScriptCheck
