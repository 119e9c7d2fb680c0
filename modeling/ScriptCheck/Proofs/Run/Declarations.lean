import ScriptCheck.Native.Builtin
import ScriptCheck.Proofs.Run.Provenance

/-! # The first declarations of a run

A run declares a name at each type keyword with a name behind it that it does not skip. Only the first
declaration of a name adds a variable, and each later one is reported as a second one
(`Script.declared_first`). No other rule adds a variable, none reports a second declaration, and none takes back
what has been assigned.
-/

namespace ScriptCheck

namespace Event

def redeclarations (events : List Event) : List Finding :=
  (events.filterMap finding?).filter fun finding => finding.problem.isRedeclared

/-- No second declaration has been found. -/
def Plain (events : List Event) : Prop := redeclarations events = []

private theorem redeclarations_append (first second : List Event) :
    redeclarations (first ++ second) = redeclarations first ++ redeclarations second := by
  rw [redeclarations, List.filterMap_append, List.filter_append]
  rfl

private theorem plain_iff {events : List Event} :
    Plain events ↔ ∀ finding, .reported finding ∈ events → finding.problem.isRedeclared = false := by
  simp only [Plain, redeclarations, List.filter_eq_nil_iff, mem_findings_iff, Bool.not_eq_true]

end Event

private theorem Table.has_eq_any (table : Table) (name : String) :
    table.has name = table.headings.any fun heading => heading.name == name := by
  rw [Bool.eq_iff_iff, has_iff, headings, List.any_map, List.any_eq_true]
  simp [Symbol.heading]

/-- A variable bears the name and has been assigned to. -/
def Table.Initialized (table : Table) (name : String) : Prop :=
  ∃ symbol, table.find? name = some symbol ∧ symbol.initialized = true

namespace Script

variable {script : Script} {state : State} {i m n : Nat} {heading : Heading}

/-! ### One step -/

/-- A step that declares nothing keeps what the variables were declared as, and finds no second declaration. -/
theorem step_declares_none (distinct : state.table.Distinct)
    (none : ¬ (state.resume ≤ i ∧ ∃ heading, script.Declares i heading)) :
    (script.step state i).state.table.headings = state.table.headings ∧
      Event.Plain (script.step state i).events := by
  by_cases ahead : state.resume ≤ i
  case neg =>
    rw [step_eq_idle fun visits => ahead visits.1]
    exact ⟨rfl, rfl⟩
  have nothing : ∀ heading, ¬ script.Declares i heading :=
    fun heading declares => none ⟨ahead, heading, declares⟩
  constructor
  · cases script.headings_step distinct i with
    | keeps _ same => exact same
    | adds _ heading declares _ => exact absurd declares (nothing heading)
  · refine Event.plain_iff.mpr fun finding found => Bool.eq_false_iff.mpr fun second => ?_
    have made := (made_step script.supplies_true state.table.onlyHolds_true i).events
    obtain ⟨heading, declares⟩ := declares_of_made (made _ found) second
    exact nothing heading declares

private theorem plain_evaluate {table : Table} {t : Token} (callee : script.isCallee i = true)
    (read : script.tokens[i]? = some t) : Event.Plain (script.evaluate table i t).events := by
  refine Event.plain_iff.mpr fun finding found => ?_
  cases (passive_evaluate script.supplies_true table.onlyHolds_true callee read).1 _ found with
  | found _ _ single => exact single

/-- Where a name is declared, the call that it may begin changes no variable and finds no second declaration. -/
theorem step_declares (ahead : state.resume ≤ i) (declares : script.Declares i heading) :
    ∃ d, script.tokens[i]? = some d ∧ d.isName = true ∧ d.text = heading.name ∧ d.scope = heading.scope ∧
      (script.step state i).state.table = (state.declare ⟨i, d⟩ heading.type).state.table ∧
      Event.redeclarations (script.step state i).events =
        Event.redeclarations (state.declare ⟨i, d⟩ heading.type).events := by
  obtain ⟨keyword, d, before, type, read, name, text, scope⟩ := declares
  refine ⟨d, read, name, text, scope, ?_⟩
  rw [step_behind_type ahead before type read (Token.isValue_of_isName name)]
  dsimp only
  split
  · rename_i fresh
    refine ⟨rfl, ?_⟩
    rw [Event.redeclarations_append, plain_evaluate (Bool.and_eq_true_iff.mp fresh).1 read, List.append_nil]
  · exact ⟨rfl, rfl⟩

/-- A name that no variable bears is added. -/
theorem step_declares_new (ahead : state.resume ≤ i) (declares : script.Declares i heading)
    (new : state.table.has heading.name = false) :
    (script.step state i).state.table.headings = state.table.headings ++ [heading] ∧
      Event.Plain (script.step state i).events := by
  obtain ⟨name, type, scope⟩ := heading
  obtain ⟨d, _, isName, rfl, rfl, table, events⟩ := step_declares ahead declares
  have declared : state.table.declare? d.text type d.scope =
      some ⟨state.table.symbols ++ [.declared d.text type d.scope]⟩ := by
    rw [Table.declare?, new, if_neg Bool.false_ne_true]
  rw [State.declare_new isName declared] at table events
  rw [table, Event.Plain, events]
  exact ⟨Table.headings_declare declared, rfl⟩

/-- A name that a variable bears is reported. -/
theorem step_declares_known (ahead : state.resume ≤ i) (declares : script.Declares i heading)
    (known : state.table.has heading.name = true) :
    (script.step state i).state.table.headings = state.table.headings ∧
      ∃ d, script.tokens[i]? = some d ∧
        Event.redeclarations (script.step state i).events = [⟨⟨i, d⟩, .redeclared heading.name⟩] := by
  obtain ⟨name, type, scope⟩ := heading
  obtain ⟨d, read, isName, rfl, rfl, table, events⟩ := step_declares ahead declares
  rw [State.declare_known isName known] at table events
  rw [table, events]
  exact ⟨rfl, d, read, rfl⟩

/-! ### The declarations of a run -/

/-- What position `i` declares, unless the run skips it with a call that was given up. -/
def declaration? (script : Script) (i : Nat) : Option Heading := do
  let keyword ← script.before? i 1
  let type ← keyword.kind.declares?
  let d ← script.tokens[i]?
  if d.isName ∧ (script.stateAt i).resume ≤ i then some ⟨d.text, type, d.scope⟩ else none

def declaredBefore (script : Script) (n : Nat) (name : String) : Bool :=
  (List.range n).any fun i => (script.declaration? i).any fun heading => heading.name == name

def introduced? (script : Script) (i : Nat) : Option Heading :=
  (script.declaration? i).filter fun heading => !script.declaredBefore i heading.name

/-- The finding at position `i`, if it declares a name that is declared before it. -/
def redeclaration? (script : Script) (i : Nat) : Option Finding := do
  let d ← script.tokens[i]?
  let heading ← script.declaration? i
  if script.declaredBefore i heading.name then some ⟨⟨i, d⟩, .redeclared heading.name⟩ else none

private theorem declaration?_eq_some_iff : script.declaration? i = some heading ↔
    (script.stateAt i).resume ≤ i ∧ script.Declares i heading := by
  simp only [declaration?, Option.bind_eq_bind, Option.bind_eq_some_iff, Option.ite_none_right_eq_some,
    Option.some.injEq]
  constructor
  · rintro ⟨keyword, before, type, declares, d, read, ⟨name, ahead⟩, rfl⟩
    exact ⟨ahead, keyword, d, before, declares, read, name, rfl, rfl⟩
  · obtain ⟨name, type, scope⟩ := heading
    rintro ⟨ahead, keyword, d, before, declares, read, isName, rfl, rfl⟩
    exact ⟨keyword, before, type, declares, d, read, ⟨isName, ahead⟩, rfl⟩

private theorem progressAt_declares_none (none : script.declaration? i = none) :
    (script.progressAt i).state.table.headings = (script.stateAt i).table.headings ∧
      Event.Plain (script.progressAt i).events := by
  apply step_declares_none (script.distinct_stateAt i)
  rintro ⟨ahead, heading, declares⟩
  rw [declaration?_eq_some_iff.mpr ⟨ahead, declares⟩] at none
  cases none

private theorem has_progressAt (script : Script) (i : Nat) (name : String) :
    (script.progressAt i).state.table.has name = ((script.stateAt i).table.has name ||
      (script.declaration? i).any fun heading => heading.name == name) := by
  cases declared : script.declaration? i with
  | none =>
    rw [Table.has_eq_any, (progressAt_declares_none declared).1, Table.has_eq_any, Option.any_none, Bool.or_false]
  | some heading =>
    obtain ⟨ahead, declares⟩ := declaration?_eq_some_iff.mp declared
    rw [Table.has_eq_any, progressAt, Option.any_some]
    cases known : (script.stateAt i).table.has heading.name with
    | false =>
      rw [(step_declares_new ahead declares known).1, List.any_append, ← Table.has_eq_any, List.any_cons,
        List.any_nil, Bool.or_false]
    | true =>
      rw [(step_declares_known ahead declares known).1, ← Table.has_eq_any]
      by_cases same : heading.name = name
      · rw [← same, known, Bool.true_or]
      · simp [same]

private theorem has_stateAt (script : Script) (n : Nat) (name : String) :
    (script.stateAt n).table.has name = script.declaredBefore n name := by
  induction n with
  | zero => rfl
  | succ n ih =>
    rw [stateAt_succ, has_progressAt, ih, declaredBefore, declaredBefore, List.range_succ, List.any_append,
      List.any_cons, List.any_nil, Bool.or_false]

/-- A position adds a variable if it is the first to declare its name, and reports it if it is not. -/
theorem progressAt_declaration (script : Script) (i : Nat) :
    (script.progressAt i).state.table.headings =
        (script.stateAt i).table.headings ++ (script.introduced? i).toList ∧
      Event.redeclarations (script.progressAt i).events = (script.redeclaration? i).toList := by
  cases declared : script.declaration? i with
  | none =>
    obtain ⟨headings, plain⟩ := progressAt_declares_none declared
    have silent : script.redeclaration? i = none := by simp [redeclaration?, declared]
    rw [headings, plain, introduced?, declared, silent]
    exact ⟨(List.append_nil _).symm, rfl⟩
  | some heading =>
    obtain ⟨ahead, declares⟩ := declaration?_eq_some_iff.mp declared
    cases known : (script.stateAt i).table.has heading.name with
    | false =>
      obtain ⟨headings, plain⟩ := step_declares_new ahead declares known
      rw [progressAt, headings, plain]
      rw [has_stateAt] at known
      simp [introduced?, redeclaration?, declared, Option.filter, known]
    | true =>
      obtain ⟨headings, d, read, found⟩ := step_declares_known ahead declares known
      rw [progressAt, headings, found]
      rw [has_stateAt] at known
      simp [introduced?, redeclaration?, declared, Option.filter, known, read]

/-- Before every position the variables are the first declarations of the names declared up to there. -/
theorem headings_stateAt (script : Script) (n : Nat) :
    (script.stateAt n).table.headings = (List.range n).filterMap script.introduced? := by
  induction n with
  | zero => rfl
  | succ n ih =>
    rw [stateAt_succ, (script.progressAt_declaration n).1, ih, List.range_succ, List.filterMap_append]
    rfl

/-- The second declarations that a run reports. -/
theorem redeclarations_run (script : Script) :
    Event.redeclarations script.run.events = (List.range script.size).filterMap script.redeclaration? := by
  rw [run_events]
  induction script.size with
  | zero => rfl
  | succ n ih =>
    rw [List.range_succ, List.flatMap_append, List.filterMap_append, Event.redeclarations_append, ih,
      List.flatMap_singleton, (script.progressAt_declaration n).2]
    rfl

/-- The diagnostics that say that a variable already exists. -/
theorem diagnostics_report (script : Script) :
    (script.report.diagnostics.filter fun diagnostic => TellsExists diagnostic.message) =
      ((List.range script.size).filterMap script.redeclaration?).map Finding.diagnostic := by
  have worded : ((fun diagnostic : Diagnostic => decide (TellsExists diagnostic.message)) ∘ Finding.diagnostic) =
      fun finding => finding.problem.isRedeclared := by
    funext finding
    exact Bool.eq_iff_iff.mpr (decide_eq_true_iff.trans finding.problem.tells_iff)
  rw [← redeclarations_run, report, Progress.report, List.filter_map, worded]
  rfl

/-! ### What has been assigned -/

/-- No rule takes back that a variable has been assigned to. -/
theorem initialized_step (script : Script) {state : State} {name : String}
    (initialized : state.table.Initialized name) (i : Nat) :
    (script.step state i).state.table.Initialized name := by
  obtain ⟨symbol, found, assigned⟩ := initialized
  cases script.moves_step state i with
  | quiet notes | aims _ _ _ _ _ notes =>
    rw [notes.table]
    exact ⟨symbol, found, assigned⟩
  | @declares _ d type _ _ _ notes =>
    rw [notes.table]
    rcases state.declare_cases ⟨i, d⟩ type with same | ⟨larger, declared, grows⟩ | same
    · rw [same]
      exact ⟨symbol, found, assigned⟩
    · rw [grows]
      exact ⟨symbol, Table.find?_declare declared found, assigned⟩
    · rw [same]
      exact ⟨symbol, found, assigned⟩
  | @stores _ target _ value _ _ _ _ old _ notes =>
    rw [notes.table]
    by_cases same : name = target.text
    · subst same
      exact ⟨_, Table.find?_assign_self value old, rfl⟩
    · exact ⟨symbol, (Table.find?_assign_ne value same).trans found, assigned⟩
  | @folds _ named _ _ _ _ _ result _ _ _ _ _ _ _ _ _ notes =>
    rw [notes.table]
    by_cases same : name = named.text
    · subst same
      exact ⟨_, Table.find?_update_self result found, assigned⟩
    · exact ⟨symbol, (Table.find?_update_ne result same).trans found, assigned⟩

private theorem initialized_stateAt {name : String} (later : m ≤ n)
    (initialized : (script.stateAt m).table.Initialized name) : (script.stateAt n).table.Initialized name := by
  induction later with
  | refl => exact initialized
  | @step n _ ih =>
    rw [stateAt_succ]
    exact script.initialized_step ih n

/-- Before every position of a run, and so in its report, the variables are the first declarations of their names
in their order, one for each name, with the type of the keyword and the place of the name. Each later declaration
of a name is reported once, and no other diagnostic says that a variable already exists. What has been assigned to
stays so. A position changes the variables once at most, so between two positions they are never anything else. -/
theorem declared_first (script : Script) :
    (∀ n, (script.stateAt n).table.headings = (List.range n).filterMap script.introduced?) ∧
      script.report.symbols.map Symbol.heading = (List.range script.size).filterMap script.introduced? ∧
      (script.report.symbols.map Symbol.name).Nodup ∧
      (script.report.diagnostics.filter fun diagnostic => TellsExists diagnostic.message) =
        ((List.range script.size).filterMap script.redeclaration?).map Finding.diagnostic ∧
      ∀ m n name, m ≤ n → (script.stateAt m).table.Initialized name →
        (script.stateAt n).table.Initialized name := by
  refine ⟨script.headings_stateAt, script.headings_stateAt script.size, ?_, script.diagnostics_report, ?_⟩
  · have distinct := script.distinct_stateAt script.size
    rw [Table.Distinct, Table.headings, List.map_map] at distinct
    exact distinct
  · intro m n name later
    exact initialized_stateAt later

-- The `int` in the argument list is skipped with the call, so the first declaration of `y` is the one behind it.
example : (List.range 15).filterMap
    (introduced? ⟨tokenize "int x; power(1 int y; float y; string x;", Builtin.registry⟩) =
      [⟨"x", .int, ⟨0, 0⟩⟩, ⟨"y", .float, ⟨0, 0⟩⟩] := by
  decide +kernel

end Script

end ScriptCheck
