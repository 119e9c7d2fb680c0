import ScriptCheck.Proofs.Run.Headings
import ScriptCheck.Proofs.Run.Located
import ScriptCheck.Proofs.Run.Relabelled
import ScriptCheck.Proofs.Token.Kinds

/-! # Renaming variables

Names that are renamed without two becoming one change nothing but names: the variables are the same under their new
names, the operations are the same, and the diagnostics are as many, at the same tokens (`Script.report_rename`). No
text of a token that is no name is that of a name, so that what the tokens of a source see of a renaming is part of a
respelling of all words, with which a run commutes.
-/

namespace ScriptCheck

def Token.rename (r : String → String) (t : Token) : Token := if t.isName then { t with text := r t.text } else t

/-- The scanner reads the word as one token, and that is a name. -/
def IsNameWord (word : String) : Prop := ∃ t, tokenize (word ++ " ") = [t] ∧ t.isName = true ∧ t.text = word

instance (word : String) : Decidable (IsNameWord word) :=
  match found : tokenize (word ++ " ") with
  | [t] => decidable_of_iff (t.isName = true ∧ t.text = word) (by simp [IsNameWord, found])
  | [] | _ :: _ :: _ => isFalse (by simp [IsNameWord, found])

/-- The diagnostics show the tokens at one position of the two lists. -/
def Diagnostic.Alongside (ts us : List Token) (d e : Diagnostic) : Prop :=
  ∃ (k : Nat) (t u : Token), ts[k]? = some t ∧ us[k]? = some u ∧
    d.line = t.line ∧ d.span = t.span ∧ e.line = u.line ∧ e.span = u.span

namespace Script

def names (script : Script) : List String := (script.tokens.filter Token.isName).map Token.text

def rename (r : String → String) (script : Script) : Script := ⟨script.tokens.map (Token.rename r), script.natives⟩

/-- No two names of the script get the same name, all get names that the scanner reads as such, and the names of the
functions that are called stay. -/
structure Renames (script : Script) (r : String → String) : Prop where
  apart : Set.InjOn r {name | name ∈ script.names}
  scanned : ∀ name ∈ script.names, IsNameWord (r name)
  callee : ∀ i t, script.isCallee i = true → script.tokens[i]? = some t → r t.text = t.text

instance (script : Script) (r : String → String) : Decidable (script.Renames r) :=
  decidable_of_iff ((∀ first ∈ script.names, ∀ second ∈ script.names, r first = r second → first = second) ∧
      (∀ name ∈ script.names, IsNameWord (r name)) ∧
      ∀ i < script.size, ∀ t ∈ script.tokens[i]?, script.isCallee i = true → r t.text = t.text) <| by
    constructor
    · rintro ⟨apart, scanned, callee⟩
      refine ⟨fun first isFirst second isSecond => apart first isFirst second isSecond, scanned, ?_⟩
      intro i t calls read
      exact callee i (List.getElem?_eq_some_iff.mp read).1 t read calls
    · rintro ⟨apart, scanned, callee⟩
      exact ⟨fun first isFirst second isSecond => apart isFirst isSecond, scanned,
        fun i _ t read calls => callee i t calls read⟩

private theorem mem_names_iff {script : Script} {name : String} :
    name ∈ script.names ↔ ∃ t ∈ script.tokens, t.isName = true ∧ t.text = name := by
  simp [names, and_assoc]

private theorem text_mem_names {script : Script} {t : Token} (member : t ∈ script.tokens) (name : t.isName = true) :
    t.text ∈ script.names :=
  mem_names_iff.mpr ⟨t, member, name, rfl⟩

private theorem name_mem_names {script : Script} {symbol : Symbol} (member : symbol ∈ script.report.symbols) :
    symbol.name ∈ script.names := by
  have heading : symbol.heading ∈ (script.stateAt script.size).table.headings := List.mem_map_of_mem member
  obtain ⟨i, _, _, d, _, _, read, name, text, _⟩ := declares_of_mem_headings heading
  exact mem_names_iff.mpr ⟨d, List.mem_of_getElem? read, name, text⟩

end Script

private theorem Token.value?_of_isName {t : Token} (name : t.isName = true) : Numeral.value? t.text = none := by
  simp only [isName, isNumber, number?, Bool.and_eq_true, beq_iff_eq, Bool.not_eq_true', Option.isSome_eq_false_iff,
    Option.isNone_iff_eq_none] at name
  simpa [name.1] using name.2

private theorem IsNameWord.value? {word : String} (scanned : IsNameWord word) : Numeral.value? word = none := by
  obtain ⟨t, _, name, rfl⟩ := scanned
  exact t.value?_of_isName name

private theorem IsNameWord.ne_text {source word : String} {t : Token} (scanned : IsNameWord word)
    (member : t ∈ tokenize source) (noName : t.isName = false) : word ≠ t.text := by
  obtain ⟨u, alone, name, rfl⟩ := scanned
  exact text_ne_of_isName (alone ▸ List.mem_singleton_self u) member name noName

namespace Script

variable {natives : Registry} {source : String} {r : String → String}

/-- A renaming of the names of a source is the part of a respelling that its tokens see. -/
theorem Renames.exists_respelling (renames : Renames ⟨tokenize source, natives⟩ r) :
    ∃ σ : Respelling, (∀ t ∈ tokenize source, t.isName = true → σ t.text = r t.text) ∧
      ∀ t ∈ tokenize source, t.isName = false → σ t.text = t.text := by
  let names : Finset String := (names ⟨tokenize source, natives⟩).toFinset
  have isName {name : String} (member : name ∈ names) : ∃ t ∈ tokenize source, t.isName = true ∧ t.text = name :=
    mem_names_iff.mp (List.mem_toFinset.mp member)
  have plain : ∀ name ∈ names, Numeral.value? name = none := by
    intro name member
    obtain ⟨t, _, name, rfl⟩ := isName member
    exact t.value?_of_isName name
  have renamed : ∀ name ∈ names, IsNameWord (r name) :=
    fun name member => renames.scanned name (List.mem_toFinset.mp member)
  obtain ⟨σ, moves, keeps⟩ := Respelling.exists_extending names r (by simpa [names] using renames.apart) plain
    fun name member => (renamed name member).value?
  refine ⟨σ, fun t member name => moves t.text (List.mem_toFinset.mpr (text_mem_names member name)), ?_⟩
  intro t member noName
  apply keeps
  · intro among
    obtain ⟨u, other, name, same⟩ := isName among
    exact text_ne_of_isName other member name noName same
  · intro among
    obtain ⟨name, isName, same⟩ := Finset.mem_image.mp among
    exact (renamed name isName).ne_text member noName same

/-- To the script of a source, a renaming of its names is a relabelling of its tokens. -/
theorem Renames.exists_relabelling (renames : Renames ⟨tokenize source, natives⟩ r) :
    let script : Script := ⟨tokenize source, natives⟩
    ∃ ρ : Relabelling, (∀ name ∈ script.names, ρ name = r name) ∧ ρ.Spares script.tokens ∧
      script.rename r = script.relabel ρ := by
  intro script
  obtain ⟨σ, moves, keeps⟩ := renames.exists_respelling
  let ρ : Relabelling := { σ with line := id, span := id }
  refine ⟨ρ, ?_, ?_, congrArg (Script.mk · natives) (List.map_congr_left ?_)⟩
  · intro name member
    obtain ⟨t, isToken, name, rfl⟩ := mem_names_iff.mp member
    exact moves t isToken name
  · intro i t found stays
    have member := List.mem_of_getElem? found
    rcases stays with literal | calls
    · exact keeps t member (by simp [Token.isName, literal])
    · have callee : script.isCallee i = true := by simpa [isCallee, found] using calls
      have name : t.isName = true := by
        rw [opensCall, Bool.and_eq_true] at calls
        exact calls.1
      exact (moves t member name).trans (renames.callee i t callee found)
  · intro t member
    unfold Token.rename
    split
    · next name =>
      rw [← moves t member name]
      rfl
    · next noName =>
      have still := keeps t member (by simpa using noName)
      exact congrArg (fun text => { t with text }) still.symm

/-- Renaming changes nothing but names. The variables are the same in the same order, under their new names, with the
same values, coordinates and flags, the operations are the same, and the diagnostics are as many, at the same
tokens. -/
theorem report_rename (natives : Registry) (source : String) (r : String → String)
    (renames : Renames ⟨tokenize source, natives⟩ r) :
    let script : Script := ⟨tokenize source, natives⟩
    let renamed := script.rename r
    renamed.report.symbols = script.report.symbols.map (Symbol.rename r) ∧
      renamed.report.operations = script.report.operations ∧
      List.Forall₂ (Diagnostic.Alongside script.tokens renamed.tokens) script.report.diagnostics
        renamed.report.diagnostics := by
  intro script renamed
  obtain ⟨ρ, agrees, spares, same⟩ := renames.exists_relabelling
  rw [show renamed = script.relabel ρ from same]
  refine ⟨?_, operations_relabel spares, ?_⟩
  · rw [symbols_relabel spares]
    apply List.map_congr_left
    intro symbol member
    rw [Symbol.rename, Symbol.rename, agrees symbol.name (name_mem_names member)]
  · change List.Forall₂ _ (script.run.findings.map Finding.diagnostic)
      ((script.relabel ρ).run.findings.map Finding.diagnostic)
    rw [findings_relabel spares, List.map_map, List.forall₂_map_left_iff, List.forall₂_map_right_iff, List.forall₂_same]
    intro finding found
    have read := read_of_mem_findings found
    refine ⟨finding.site.position, finding.site.token, finding.site.token.relabel ρ, read, ?_, rfl, rfl, rfl, rfl⟩
    rw [getElem?_relabel, read, Option.map_some]

/-- Two variables that swap their names, a literal with the name of one of them in it, and an undeclared name. The
undeclared target and the variable of a closed block are reported at the same bytes under their new names. -/
theorem report_rename_swapped :
    let script : Script := ⟨tokenize "int a = 1; \x7b int b = a; b + size(\"a\"); c = a; \x7d a - b;", Builtin.registry⟩
    let r : String → String := fun name => if name = "a" then "b" else if name = "b" then "a" else
      if name = "c" then "über_c" else name
    let renamed := script.rename r
    script.Renames r ∧
      renamed.report.symbols = script.report.symbols.map (Symbol.rename r) ∧
      renamed.report.operations = script.report.operations ∧
      List.Forall₂ (Diagnostic.Alongside script.tokens renamed.tokens) script.report.diagnostics
        renamed.report.diagnostics ∧
      renamed.report.symbols = [⟨"b", .int 1, ⟨0, 0⟩, true⟩, ⟨"a", .int 2, ⟨1, 1⟩, true⟩] ∧
      renamed.report.diagnostics.map Diagnostic.message =
        ["Cannot assign to 'über_c', that variable does not exist.",
          "Cannot access a, that variable is declared on another level."] := by
  intro script r renamed
  have renames : script.Renames r := by decide +kernel
  obtain ⟨symbols, operations, alongside⟩ := report_rename Builtin.registry _ r renames
  exact ⟨renames, symbols, operations, alongside, by decide +kernel, by decide +kernel⟩

end Script

end ScriptCheck
