import ScriptCheck.Proofs.Run.Located
import ScriptCheck.Proofs.Run.Relabelled

/-! # Layout

Blanks, line breaks and comments between the tokens of a source play no part in its check: two sources with the same
kinds and texts of tokens have the same variables and operations, and diagnostics about the same tokens that differ
in line numbers at most (`checkSource_layout`). Their tokens stand in the same blocks, because only tokens move a
coordinate. And where a token stands in the source is only ever written down, so that the two checks are the same
once the places of the tokens are forgotten.
-/

namespace ScriptCheck

/-! ### Places forgotten -/

/-- No line and no span for any token. -/
def Relabelling.placeless : Relabelling where
  spell := id
  injective := Function.injective_id
  value?_spell _ := rfl
  line _ := 0
  span _ := ⟨0, 0⟩

@[simp] theorem Relabelling.spell_placeless : placeless.spell = id := rfl

/-- The problem, with this line number in its message if there is one in it. -/
def Problem.atLine (line : Nat) : Problem → Problem
  | unfinishedStatement _ => unfinishedStatement line
  | missingDefinition _ => missingDefinition line
  | missingSource _ => missingSource line
  | problem => problem

private theorem Problem.relabel_placeless (problem : Problem) : problem.relabel .placeless = problem.atLine 0 := by
  cases problem with
  | sourceType source target => cases source <;> rfl
  | _ => rfl

private theorem Relabelling.spares_placeless (ts : List Token) : Relabelling.placeless.Spares ts :=
  fun _ _ _ _ => rfl

/-! ### Tokens that are spelled alike -/

/-- What a token is and how it is written, wherever it stands. -/
def Token.spelling (t : Token) : Kind × String := (t.kind, t.text)

private theorem Scope.past_congr (scope : Scope) {ts us : List Token} (same : ts.map Token.kind = us.map Token.kind) :
    scope.past ts = scope.past us := by
  have count (p : Kind → Bool) : ts.countP (fun t => p t.kind) = us.countP (fun t => p t.kind) := by
    have counted := congrArg (List.countP p) same
    rwa [List.countP_map, List.countP_map] at counted
  simp only [Scope.past, Token.balance_eq_countP, Token.braces, count fun kind => kind == .openScope,
    count fun kind => kind == .closeScope, count Kind.isScope]

/-- Tokens that are spelled alike stand at the same coordinates. -/
theorem map_placeless_tokenize {source other : String}
    (same : (tokenize source).map Token.spelling = (tokenize other).map Token.spelling) :
    (tokenize source).map (Token.relabel .placeless) = (tokenize other).map (Token.relabel .placeless) := by
  have kinds : (tokenize source).map Token.kind = (tokenize other).map Token.kind := by
    have firsts := congrArg (List.map Prod.fst) same
    rwa [List.map_map, List.map_map] at firsts
  refine List.ext_getElem? fun k => ?_
  have spelled := congrArg (·[k]?) same
  simp only [List.getElem?_map] at spelled ⊢
  cases first : (tokenize source)[k]? with
  | none =>
    rw [first, Option.map_none, eq_comm, Option.map_eq_none_iff] at spelled
    rw [spelled]
  | some t =>
    rw [first, Option.map_some, eq_comm, Option.map_eq_some_iff] at spelled
    obtain ⟨u, second, alike⟩ := spelled
    obtain ⟨kind, text⟩ := Prod.mk.inj alike
    have scope : u.scope = t.scope := by
      rw [scope_getElem? first, scope_getElem? second]
      apply Scope.past_congr
      rw [List.map_take, List.map_take, kinds]
    rw [second, Option.map_some, Option.map_some, Token.relabel, Token.relabel, kind, text, scope]
    rfl

/-! ### Reports -/

/-- The diagnostics show the tokens at one position of the two lists, and their messages are the same but for a line
number. -/
def Diagnostic.Agrees (ts us : List Token) (d e : Diagnostic) : Prop :=
  ∃ (k : Nat) (t u : Token) (problem : Problem) (line : Nat), ts[k]? = some t ∧ us[k]? = some u ∧
    d = (⟨⟨k, t⟩, problem⟩ : Finding).diagnostic ∧ e = (⟨⟨k, u⟩, problem.atLine line⟩ : Finding).diagnostic

private theorem Problem.atLine_atLine (first second : Nat) (problem : Problem) :
    (problem.atLine first).atLine second = problem.atLine second := by
  cases problem <;> rfl

private theorem Problem.exists_eq_atLine (problem : Problem) : ∃ line, problem = problem.atLine line := by
  cases problem with
  | unfinishedStatement line | missingDefinition line | missingSource line => exact ⟨line, rfl⟩
  | _ => exact ⟨0, rfl⟩

/-- The findings of two checks agree if they are the same up to their places. -/
theorem Finding.agrees {ts us : List Token} {f g : Finding} (inFirst : ts[f.site.position]? = some f.site.token)
    (inSecond : us[g.site.position]? = some g.site.token) (same : f.relabel .placeless = g.relabel .placeless) :
    f.diagnostic.Agrees ts us g.diagnostic := by
  have position : f.site.position = g.site.position := (congrArg (·.site.position) same :)
  have problems : f.problem.atLine 0 = g.problem.atLine 0 := by
    simpa [Finding.relabel, Problem.relabel_placeless] using congrArg Finding.problem same
  obtain ⟨line, itself⟩ := g.problem.exists_eq_atLine
  refine ⟨f.site.position, f.site.token, g.site.token, f.problem, line, inFirst, position ▸ inSecond, rfl, ?_⟩
  rw [Finding.diagnostic, itself, ← g.problem.atLine_atLine 0, ← problems, f.problem.atLine_atLine]
  rfl

/-- Layout does not matter. Sources with the same kinds and texts of tokens have the same variables and operations,
and as many diagnostics, about the same tokens and with the same messages up to line numbers. -/
theorem checkSource_layout (natives : Registry) {source other : String}
    (same : (tokenize source).map Token.spelling = (tokenize other).map Token.spelling) :
    let first := checkSource natives source
    let second := checkSource natives other
    first.symbols = second.symbols ∧ first.operations = second.operations ∧
      List.Forall₂ (Diagnostic.Agrees (tokenize source) (tokenize other)) first.diagnostics second.diagnostics := by
  let script : Script := ⟨tokenize source, natives⟩
  let twin : Script := ⟨tokenize other, natives⟩
  have placeless : script.relabel .placeless = twin.relabel .placeless :=
    congrArg (Script.mk · natives) (map_placeless_tokenize same)
  have spares (ts : List Token) : Relabelling.placeless.Spares ts := Relabelling.spares_placeless ts
  refine ⟨?_, ?_, ?_⟩
  · have symbols := congrArg (·.report.symbols) placeless
    simp only [Script.symbols_relabel (spares _), Relabelling.spell_placeless, Symbol.rename_id, List.map_id] at symbols
    exact symbols
  · have operations := congrArg (·.report.operations) placeless
    simp only [Script.operations_relabel (spares _)] at operations
    exact operations
  · have findings := congrArg (·.run.findings) placeless
    simp only [Script.findings_relabel (spares _)] at findings
    change List.Forall₂ _ (script.run.findings.map Finding.diagnostic) (twin.run.findings.map Finding.diagnostic)
    rw [List.forall₂_map_left_iff, List.forall₂_map_right_iff, List.forall₂_iff_get]
    refine ⟨by simpa using congrArg List.length findings, fun k inFirst inSecond => ?_⟩
    apply Finding.agrees
    · exact Script.read_of_mem_findings (List.get_mem script.run.findings ⟨k, inFirst⟩)
    · exact Script.read_of_mem_findings (List.get_mem twin.run.findings ⟨k, inSecond⟩)
    · simpa [inFirst, inSecond] using congrArg (·[k]?) findings

/-- The same unfinished statement on one line, and on three with a comment. The brace behind it is reported at both
of its places, with the line on which the statement is left. -/
theorem layout_unfinished :
    let source := "int a = 1 \x7d"
    let other := "int a\n = /* \x7b */\n1\x7d"
    let first := checkSource Builtin.registry source
    let second := checkSource Builtin.registry other
    (tokenize source).map Token.spelling = (tokenize other).map Token.spelling ∧
      first.symbols = second.symbols ∧ first.operations = second.operations ∧
      ∃ d e, first.diagnostics = [d] ∧ second.diagnostics = [e] ∧
        d.Agrees (tokenize source) (tokenize other) e ∧
        d = ⟨1, ⟨10, 11⟩, "Finish the statement at line 1 first."⟩ ∧
        e = ⟨3, ⟨18, 19⟩, "Finish the statement at line 3 first."⟩ := by
  intro source other first second
  have same : (tokenize source).map Token.spelling = (tokenize other).map Token.spelling := by decide +kernel
  obtain ⟨symbols, operations, agree⟩ := checkSource_layout Builtin.registry same
  have found : first.diagnostics = [⟨1, ⟨10, 11⟩, "Finish the statement at line 1 first."⟩] := by decide +kernel
  have again : second.diagnostics = [⟨3, ⟨18, 19⟩, "Finish the statement at line 3 first."⟩] := by decide +kernel
  refine ⟨same, symbols, operations, _, _, found, again, ?_, rfl, rfl⟩
  rw [found, again] at agree
  exact (List.forall₂_cons.mp agree).1

end ScriptCheck
