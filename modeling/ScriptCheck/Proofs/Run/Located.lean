import ScriptCheck.Native.Builtin
import ScriptCheck.Proofs.Run.Provenance
import ScriptCheck.Proofs.Token.Places

/-! # Where findings are made

A rule finds something wrong at the token that it looks at, or in the call whose callee that token is: there, at
the callee of an open call or at an argument. A call is read no further than to the end of the statement, so no
statement ends from the position of the rule on before the token of the finding (`Script.located_step`), and the
diagnostics of a source show tokens of that source (`Script.diagnostics_located`).
-/

namespace ScriptCheck

namespace Script

/-- What a step finds wrong it finds at its token, or at a name or literal behind it in the same statement. -/
theorem located_step (script : Script) (state : State) (i : Nat) :
    ∀ finding ∈ (script.step state i).findings, script.LocatedFrom i finding.site := by
  intro finding found
  have made := (made_step script.supplies_true state.table.onlyHolds_true i).events
  exact located_of_made (made _ (Event.mem_findings_iff.mp found))

/-- The findings of a run are those of its positions. -/
theorem findings_run (script : Script) :
    script.run.findings = (List.range script.size).flatMap fun i => (script.progressAt i).findings := by
  rw [Progress.findings, run_events, List.filterMap_flatMap]
  rfl

/-- What a run finds wrong it finds at its tokens. -/
theorem read_of_mem_findings {script : Script} {finding : Finding} (found : finding ∈ script.run.findings) :
    script.tokens[finding.site.position]? = some finding.site.token := by
  rw [findings_run] at found
  obtain ⟨i, _, member⟩ := List.mem_flatMap.mp found
  exact (script.located_step _ i finding member).read

/-- Each diagnostic of a source carries the line and the span of one of its tokens. So it covers characters of the
source, on the line on which the first of them stands. The diagnostics are those of the positions, one position
after the other, and what is found wrong at a position stands there or, a name or literal, further on in the same
statement. -/
theorem diagnostics_located (natives : Registry) (source : String) :
    let script : Script := ⟨tokenize source, natives⟩
    let diagnostics := (checkSource natives source).diagnostics
    (∀ d ∈ diagnostics, ∃ t ∈ tokenize source, d.line = t.line ∧ d.span = t.span ∧
        d.span.Covers source ∧ d.line = lineAt source d.span.start) ∧
      diagnostics = (List.range script.size).flatMap (fun i =>
        (script.progressAt i).findings.map Finding.diagnostic) ∧
      ∀ i, ∀ finding ∈ (script.progressAt i).findings, script.LocatedFrom i finding.site := by
  intro script diagnostics
  refine ⟨?_, ?_, fun i => script.located_step _ i⟩
  · intro d member
    obtain ⟨finding, found, rfl⟩ := List.mem_map.mp member
    have isToken := List.mem_of_getElem? (read_of_mem_findings found)
    exact ⟨finding.site.token, isToken, rfl, rfl, covers_of_mem_tokenize isToken, line_of_mem_tokenize isToken⟩
  · change script.run.findings.map Finding.diagnostic = _
    rw [findings_run, List.map_flatMap]

/-- The name that cannot be passed is found on the second line, while the check is at the callee on the first. -/
theorem located_in_argument :
    let script : Script := ⟨tokenize "int a; power(1.0,\n b);", Builtin.registry⟩
    let finding : Finding := ⟨⟨7, ⟨.identifier, "b", 2, ⟨0, 0⟩, ⟨19, 20⟩⟩⟩, .unknownArgument "b" "power"⟩
    finding ∈ (script.progressAt 3).findings ∧ script.SameStatement 3 7 ∧
      finding.diagnostic ∈ (checkSource Builtin.registry "int a; power(1.0,\n b);").diagnostics ∧
      (Span.mk 19 20).Covers "int a; power(1.0,\n b);" := by
  intro script finding
  obtain ⟨covers, _, located⟩ := diagnostics_located Builtin.registry "int a; power(1.0,\n b);"
  have found : finding ∈ (script.progressAt 3).findings := by decide +kernel
  have shown : finding.diagnostic ∈ (checkSource Builtin.registry "int a; power(1.0,\n b);").diagnostics := by
    decide +kernel
  obtain ⟨_, _, _, _, here, _⟩ := covers _ shown
  exact ⟨found, (located 3 finding found).same, shown, here⟩

end Script

end ScriptCheck
