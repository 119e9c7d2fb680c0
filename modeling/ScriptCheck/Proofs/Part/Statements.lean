import ScriptCheck.Native.Builtin
import ScriptCheck.Proofs.Part.Step
import ScriptCheck.Proofs.Run.Headings
import ScriptCheck.Proofs.Statement.Start

/-! # Checking statement by statement

At the end of a statement a check can be cut in two. What stands before the cut is reported as if nothing
stood behind it, and what stands behind it is checked with nothing but the table of variables and the token
at the cut (`Script.report_statements`). Whatever else the check carries along lies before the cut: the
refused positions and the evaluated callees, and the chain, which is never found again behind the end of a
statement.
-/

namespace ScriptCheck

namespace Progress

theorem Shifted.report {n : Nat} {later first : Progress} (shifted : Shifted n later first) :
    later.report = first.report := by
  simp only [Progress.report, Progress.findings, shifted.events, shifted.state.table, Report.mk.injEq,
    List.filterMap_map, List.flatMap_map, Function.comp_def, Event.operations_shift, and_true]
  rw [List.map_filterMap, List.map_filterMap]
  congr 1
  funext event
  rw [Event.finding?_shift, Option.map_map]
  rfl

end Progress

/-- The report on the tokens `behind` the end of a statement, `last`, when the statements up to there have
left the variables of `table`. -/
def continuation (natives : Registry) (table : Table) (last : Token) (behind : List Token) : Report :=
  (Script.steps ⟨last :: behind, natives⟩ { table } (List.range' 1 behind.length)).report

/-- The report `whole` goes on from `before` with `more`: it adds the diagnostics and operations of `more`,
ends with its variables, and keeps what has been declared. -/
structure Report.GoesOn (before more whole : Report) : Prop where
  diagnostics : whole.diagnostics = before.diagnostics ++ more.diagnostics
  operations : whole.operations = before.operations ++ more.operations
  symbols : whole.symbols = more.symbols
  headings : before.symbols.map Symbol.heading <+: whole.symbols.map Symbol.heading

namespace Script

variable {script : Script} {front behind : List Token}

/-- Some positions of a script are checked in the same way in a longer one. -/
theorem steps_within (closed : script.Closed front behind) (m : Nat) {k : Nat} {later first : State}
    (shifted : State.Shifted front.length later first)
    (agrees : (script.within front behind).ChainAgrees later) (agreed : script.ChainAgrees first)
    (visited : front = [] ∨ 1 ≤ k) (inside : k + m ≤ script.tokens.length) :
    Progress.Shifted front.length
      ((script.within front behind).steps later (List.range' (front.length + k) m))
      (script.steps first (List.range' k m)) := by
  induction m generalizing k later first with
  | zero => exact shifted.idle
  | succ m ih =>
    have now := step_within closed (by omega) shifted agrees agreed visited
    have rest := ih now.state (agrees.step _) (agreed.step _) (visited.imp_right Nat.le_succ_of_le)
      (by omega)
    rw [List.range'_succ, List.range'_succ, steps, steps, now.events]
    exact rest.after _

/-- Behind the end of a statement nothing is found of what a check has noted before it, except for the
variables. -/
theorem shifted_of_ends {n : Nat} {last : Token} {later : State} (ends : last.kind.endsStatement = true)
    (read : script.tokens[n]? = some last) (size : script.tokens.length = n + 1)
    (same : State.Shifted 0 later script.run.state) :
    State.Shifted n later { table := script.run.state.table } := by
  have resume := resume_stateAt_le read ends script.size (Nat.le_of_eq size)
  have none : ∀ {k : Nat} {t : Token}, script.tokens[n + k]? = some t → ¬ t.isName = true := by
    intro k t found
    have inside := (List.getElem?_eq_some_iff.mp found).1
    obtain rfl : k = 0 := by omega
    obtain rfl : last = t := by simpa [read] using found
    simp [Token.not_isName_of_endsStatement ends]
  refine ⟨same.table, ?_, ?_, ?_⟩
  · intro k
    have member := same.refused (n + k)
    rw [Nat.zero_add] at member
    rw [member]
    constructor
    · intro refused
      obtain ⟨t, found, name⟩ := script.exists_name_of_mem_refused script.size _ refused
      exact absurd name (none found)
    · intro nothing
      cases nothing
  · intro k
    have member := same.evaluated (n + k)
    rw [Nat.zero_add] at member
    rw [member]
    constructor
    · intro evaluated
      obtain ⟨t, _, found, name, _⟩ :=
        isCallee_iff.mp (script.isCallee_of_mem_evaluated script.size _ evaluated)
      exact absurd name (none found)
    · intro nothing
      cases nothing
  · have bound : script.run.state.resume ≤ n := resume
    have level := same.resume
    change later.resume - n = 0
    omega

/-- Wherever a run is cut, its report goes on from that of the first go with that of the second one. -/
theorem report_cut (script : Script) {m n : Nat} (size : script.size = m + n) :
    Report.GoesOn (script.steps {} (List.range m)).report
      (script.steps (script.stateAt m) (List.range' m n)).report script.report := by
  have kept : (script.stateAt m).table.headings <+: (script.stateAt script.size).table.headings :=
    headings_stateAt_mono (by omega)
  rw [← run_state] at kept
  rw [report]
  rw [script.run_cut size] at kept ⊢
  refine ⟨?_, ?_, rfl, kept⟩
  · simp [Progress.report, Progress.findings]
  · simp [Progress.report]

/-- No chain is in progress where a check begins. -/
theorem chainAgrees_start (script : Script) (table : Table) : script.ChainAgrees { table } := by
  intro chain found
  cases found

/-- Up to its end the check of a longer script is the check of its first part. -/
theorem run_within (closed : script.Closed [] behind) :
    Progress.Shifted 0 ((script.within [] behind).steps {} (List.range script.size)) script.run := by
  have fresh : State.Shifted 0 {} {} := ⟨rfl, by simp, by simp, rfl⟩
  rw [run, List.range_eq_range']
  exact steps_within (k := 0) closed script.size fresh (chainAgrees_start _ _) (chainAgrees_start _ _)
    (.inl rfl) (Nat.le_of_eq (Nat.zero_add _))

theorem report_append {natives : Registry} {init : List Token} {last : Token}
    (ends : last.kind.endsStatement = true) (behind : List Token) :
    Report.GoesOn (Script.report ⟨init ++ [last], natives⟩)
      (continuation natives ⟨(Script.report ⟨init ++ [last], natives⟩).symbols⟩ last behind)
      (Script.report ⟨init ++ [last] ++ behind, natives⟩) := by
  obtain ⟨part, isPart⟩ : ∃ part : Script, part = ⟨init ++ [last], natives⟩ := ⟨_, rfl⟩
  obtain ⟨rest, isRest⟩ : ∃ rest : Script, rest = ⟨last :: behind, natives⟩ := ⟨_, rfl⟩
  obtain ⟨whole, isWhole⟩ : ∃ whole : Script, whole = ⟨init ++ [last] ++ behind, natives⟩ := ⟨_, rfl⟩
  have aroundPart : part.within [] behind = whole := by simp [within, isPart, isWhole]
  have aroundRest : rest.within init [] = whole := by simp [within, isRest, isWhole]
  have closedPart : part.Closed [] behind := ⟨.inl rfl, .inr ⟨last, by simp [isPart], ends⟩⟩
  have closedRest : rest.Closed init [] := ⟨.inr ⟨last, by simp [isRest], ends⟩, .inl rfl⟩
  have partSize : part.size = init.length + 1 := by simp [isPart, size]
  have wholeSize : whole.size = init.length + 1 + behind.length := by
    rw [isWhole, size, List.length_append, List.length_append, List.length_singleton]
  -- Up to the cut the longer script is checked like its part.
  have opening := run_within closedPart
  rw [aroundPart, partSize] at opening
  -- Behind the cut it is checked like the rest, from the variables that the part has left.
  have ending : Progress.Shifted init.length
      (whole.steps (whole.stateAt (init.length + 1)) (List.range' (init.length + 1) behind.length))
      (rest.steps { table := part.run.state.table } (List.range' 1 behind.length)) := by
    have agrees := whole.chainAgrees_stateAt (init.length + 1)
    rw [← aroundRest] at agrees opening ⊢
    exact steps_within closedRest behind.length
      (shifted_of_ends ends (by simp [isPart]) partSize opening.state) agrees (chainAgrees_start _ _)
      (.inr (Nat.le_refl 1)) (by simp [isRest, Nat.add_comm])
  have goesOn := whole.report_cut wholeSize
  rw [opening.report, ending.report] at goesOn
  subst isPart isRest isWhole
  exact goesOn

/-- At the end of a statement a check is cut in two: the report on all tokens goes on from the report on those
up to there, and with what depends on nothing else than the variables that these have left, the token at the
cut and the tokens behind it. So it goes on in the same way from any other tokens that leave the same
variables and end in the same token. A native is a function of its arguments that records operations and does not
see those recorded before, so a part of a script has nothing but the variables to hand on. -/
theorem report_statements {natives : Registry} {front : List Token} {last : Token}
    (ended : front.getLast? = some last) (ends : last.kind.endsStatement = true) (behind : List Token) :
    let before := Script.report ⟨front, natives⟩
    let more := continuation natives ⟨before.symbols⟩ last behind
    Report.GoesOn before more (Script.report ⟨front ++ behind, natives⟩) ∧
      ∀ other : List Token, other.getLast? = some last →
        (Script.report ⟨other, natives⟩).symbols = before.symbols →
        Report.GoesOn (Script.report ⟨other, natives⟩) more
          (Script.report ⟨other ++ behind, natives⟩) := by
  intro before more
  obtain ⟨init, rfl⟩ := List.getLast?_eq_some_iff.mp ended
  refine ⟨report_append ends behind, ?_⟩
  intro other same left
  obtain ⟨start, rfl⟩ := List.getLast?_eq_some_iff.mp same
  have goesOn : Report.GoesOn (Script.report ⟨start ++ [last], natives⟩) _ _ := report_append ends behind
  rw [left] at goesOn
  exact goesOn

/-- A statement that uses a variable goes on from the statement that declares it. -/
theorem report_twoStatements :
    let semicolon : Token := ⟨.semicolon, ";", 1, ⟨0, 0⟩, ⟨9, 10⟩⟩
    (tokenize "int n = 1;").getLast? = some semicolon ∧
      Report.GoesOn (Script.report ⟨tokenize "int n = 1;", Builtin.registry⟩)
        (continuation Builtin.registry
          ⟨(Script.report ⟨tokenize "int n = 1;", Builtin.registry⟩).symbols⟩ semicolon
          (tokenize "messageBox(toString(n), \"b\");"))
        (Script.report ⟨tokenize "int n = 1;" ++ tokenize "messageBox(toString(n), \"b\");",
          Builtin.registry⟩) := by
  intro semicolon
  have ended : (tokenize "int n = 1;").getLast? = some semicolon := by decide +kernel
  exact ⟨ended, (report_statements ended (by decide) _).1⟩

end Script

end ScriptCheck
