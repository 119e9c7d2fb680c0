import ScriptCheck.Listing
import ScriptCheck.Native.Builtin
import ScriptCheck.Proofs.Run.Builtins
import ScriptCheck.Proofs.Run.Headings
import ScriptCheck.Proofs.Text.LineFeeds
import ScriptCheck.Proofs.Token.Kinds

/-! # The lines of listings

A listing has one line for each item, except that texts of string literals, messages that show them and string
values are written as they are, so that each line feed in them breaks a line (`Script.listings_lines`). Words and
marks hold no line feed, and no function makes one: a script whose literals hold none has listings with one line
for each token, diagnostic and variable.
-/

namespace ScriptCheck

/-! ### Lines of a listing -/

private theorem Kind.lineFeeds_label (kind : Kind) : lineFeeds kind.label = 0 := by
  cases kind <;> simp [label, lineFeeds]

private theorem ValueType.lineFeeds_name (type : ValueType) : lineFeeds type.name = 0 := by
  cases type <;> simp [name, lineFeeds]

private theorem Parameter.lineFeeds_name (parameter : Parameter) : lineFeeds parameter.name = 0 := by
  cases parameter <;> simp [name, lineFeeds]

private theorem Token.lineFeeds_listing (t : Token) : lineFeeds t.listing = 1 + lineFeeds t.text := by
  have line : lineFeeds (String.ofList (Text.padLeft 4 (Nat.toDigits 10 t.line))) = 0 := by
    rw [lineFeeds_ofList, List.count_eq_zero]
    simp [Text.padLeft, not_mem_toDigits]
  have kind : lineFeeds (String.ofList (Text.padRight 14 t.kind.label.toList)) = 0 := by
    have label := lineFeeds_eq_zero_iff.mp t.kind.lineFeeds_label
    rw [lineFeeds_ofList, List.count_eq_zero]
    simp [Text.padRight, label]
  simp only [listing, lineFeeds_append, lineFeeds_toString, lineFeeds_int, lineFeeds_nat, line, kind]
  simp [lineFeeds]
  omega

private theorem Diagnostic.lineFeeds_text (diagnostic : Diagnostic) :
    lineFeeds diagnostic.text = lineFeeds diagnostic.message := by
  simp only [text, lineFeeds_append, lineFeeds_toString, lineFeeds_nat]
  simp [lineFeeds]

/-- The line of a variable is broken by its name, and by its value if it has been assigned to. -/
theorem Symbol.lineFeeds_describe (symbol : Symbol) : lineFeeds symbol.describe =
    lineFeeds symbol.name + if symbol.initialized then lineFeeds symbol.value.text else 0 := by
  have front : lineFeeds "Variable " = 0 := by decide +kernel
  have close : lineFeeds ")" = 0 := by decide +kernel
  unfold describe
  dsimp only
  split
  · split
    · rename_i x value
      have words : lineFeeds " (float) has value " = 0 ∧ lineFeeds " (" = 0 := by decide +kernel
      have hundredths := Decimal.lineFeeds_signed x Decimal.not_mem_hundredthsChars
      have shortest := Value.lineFeeds_text (.float x)
      simp only [lineFeeds_append, lineFeeds_toString, Scope.lineFeeds_text, value, shortest, front, words, close]
      rw [Decimal.hundredthsText, hundredths, Nat.zero_add]
    · have words : lineFeeds " (" = 0 ∧ lineFeeds ") has value " = 0 := by decide +kernel
      simp only [lineFeeds_append, lineFeeds_toString, Scope.lineFeeds_text, ValueType.lineFeeds_name, front, words,
        close, Nat.zero_add, Nat.add_zero]
  · have words : lineFeeds " has been declared but not yet defined. (" = 0 := by decide +kernel
    simp only [lineFeeds_append, lineFeeds_toString, Scope.lineFeeds_text, front, words, close, Nat.zero_add]

/-! ### Messages -/

private theorem CallError.lineFeeds_message {error : CallError} (plain : lineFeeds error.function = 0) :
    lineFeeds error.message = 0 := by
  unfold message
  cases error <;>
    simp only [function] at plain <;>
    simp only [lineFeeds_append, lineFeeds_toString, lineFeeds_nat, Parameter.lineFeeds_name,
      ValueType.lineFeeds_name, plain] <;>
    decide +kernel

private theorem Source.lineFeeds_shown {source : Source} (plain : lineFeeds source.text = 0) :
    lineFeeds source.shown = 0 := by
  unfold shown
  cases source <;>
    simp only [text] at plain <;>
    simp only [lineFeeds_append, lineFeeds_toString, plain] <;>
    decide +kernel

/-- A message holds no line feed but those of the texts that it shows. -/
theorem Problem.lineFeeds_message {problem : Problem} (plain : ∀ text ∈ problem.texts, lineFeeds text = 0) :
    lineFeeds problem.message = 0 := by
  unfold message
  cases problem with
  | refusedCall error => exact CallError.lineFeeds_message (plain _ (List.mem_cons_self ..))
  | sourceType source target =>
    simp only [texts, List.forall_mem_cons] at plain
    simp only [lineFeeds_append, lineFeeds_toString, Source.lineFeeds_shown plain.1, plain.2.1]
    decide +kernel
  | _ =>
    simp only [texts, List.forall_mem_cons, List.not_mem_nil, false_implies, implies_true, and_true] at plain
    simp only [lineFeeds_append, lineFeeds_toString, lineFeeds_nat, plain]
    decide +kernel

/-! ### Texts of tokens -/

/-- Words and marks hold no line feed. -/
theorem lineFeeds_text_of_kind {source : String} {t : Token} (member : t ∈ tokenize source)
    (noLiteral : t.kind ≠ .stringLiteral) : lineFeeds t.text = 0 := by
  obtain ⟨place, within, shows⟩ := exists_place_of_mem (shows_tokenize source) member
  obtain ⟨placed, shown⟩ := List.mem_filter.mp within
  obtain ⟨front, back, whole, _⟩ := Lexeme.exists_of_mem_placed placed
  have splits := splits_source source
  rw [whole] at splits
  obtain ⟨_, _, cuts⟩ := splits.exists_cuts
  rw [shows.text, lineFeeds_ofList, List.count_eq_zero]
  rw [shows.kind] at noLiteral
  generalize place.2 = lexeme at cuts shown noLiteral
  cases cuts with
  | quote => exact absurd rfl noLiteral
  | mark mark =>
    rintro feed
    obtain rfl := List.mem_singleton.mp feed
    exact absurd mark (by decide)
  | word runs =>
    intro feed
    obtain ⟨before, behind, same⟩ := List.append_of_mem feed
    exact runs before '\n' behind same (.inl (by decide))
  | blank | lineComment | blockComment | openComment | openQuote | openWord => cases shown

/-- The contents of a literal are a part of its text. -/
theorem Token.lineFeeds_contents {t : Token} {contents : String} (literal : t.contents? = some contents) :
    lineFeeds contents ≤ lineFeeds t.text := by
  unfold contents? at literal
  split at literal
  · split at literal
    · rename_i rest characters
      split at literal
      · obtain rfl := Option.some.inj literal
        apply lineFeeds_le_of_sublist
        rw [characters]
        exact (List.dropLast_sublist rest).trans (List.sublist_cons_self ..)
      · obtain rfl := Option.some.inj literal
        exact Nat.le_refl _
    · obtain rfl := Option.some.inj literal
      exact Nat.le_refl _
  · cases literal

/-! ### Values -/

def Value.OneLine (value : Value) : Prop := lineFeeds value.text = 0

private theorem Value.oneLine_int (n : Int64) : (Value.int n).OneLine := (Value.int n).lineFeeds_text

private theorem Value.oneLine_float (x : Float) : (Value.float x).OneLine := (Value.float x).lineFeeds_text

private theorem Token.oneLine_of_number {t : Token} {value : Value} (number : t.number? = some value) :
    value.OneLine := by
  unfold number? Numeral.value? Numeral.valueOfChars at number
  split at number
  · split at number
    · cases number
    split at number
    · dsimp only at number
      split at number
      · obtain rfl := Option.some.inj number
        exact Value.oneLine_int _
      · cases number
    · obtain rfl := Option.some.inj number
      exact Value.oneLine_float _
    · cases number
  · cases number

private theorem Token.oneLine_of_literal {t : Token} {value : Value} (plain : lineFeeds t.text = 0)
    (literal : t.literal? = some value) : value.OneLine := by
  rcases Option.or_eq_some_iff.mp literal with number | ⟨_, contents⟩
  · exact oneLine_of_number number
  · obtain ⟨text, found, rfl⟩ := Option.map_eq_some_iff.mp contents
    have part := lineFeeds_contents found
    exact Nat.eq_zero_of_le_zero (plain ▸ part)

private theorem Operator.oneLine_apply {operator : Operator} {old value result : Value} (before : old.OneLine)
    (plain : value.OneLine) (applies : operator.apply old value = some result) : result.OneLine := by
  cases result with
  | int n => exact Value.oneLine_int n
  | float x => exact Value.oneLine_float x
  | string s =>
    unfold apply at applies
    split at applies
    any_goals cases applies
    rename_i a b
    change lineFeeds a = 0 at before
    change lineFeeds b = 0 at plain
    change lineFeeds (a ++ b) = 0
    rw [lineFeeds_append, before, plain]

private theorem Builtin.oneLine_body {native : Native} (builtin : native ∈ all) {args : List Value} {value : Value}
    (plain : ∀ arg ∈ args, arg.OneLine) (gave : (native.body args).value = some value) : value.OneLine := by
  simp only [all, List.mem_cons, List.not_mem_nil, or_false] at builtin
  rcases builtin with rfl | rfl | rfl | rfl | rfl | rfl <;>
    simp only [squareroot, power, messageBox, substring, size, Builtin.text] at gave
  case inl | inr.inl =>
    split at gave
    · obtain rfl := Option.some.inj gave
      exact Value.oneLine_float _
    · cases gave
  case inr.inr.inl => cases gave
  case inr.inr.inr.inl =>
    split at gave
    · rename_i s start length
      obtain rfl := Option.some.inj gave
      have whole : lineFeeds s = 0 := plain (.string s) (List.mem_cons_self ..)
      have part : ((s.toList.drop (count start)).take (count length)).Sublist s.toList :=
        (List.take_sublist ..).trans (List.drop_sublist ..)
      exact Nat.eq_zero_of_le_zero (whole ▸ lineFeeds_le_of_sublist part)
    · cases gave
  case inr.inr.inr.inr.inl =>
    split at gave
    · obtain rfl := Option.some.inj gave
      exact Value.oneLine_int _
    · cases gave
  case inr.inr.inr.inr.inr =>
    split at gave
    · rename_i value
      obtain rfl := Option.some.inj gave
      exact plain value (List.mem_cons_self ..)
    · cases gave

/-! ### Listings of a source -/

namespace Script

/-- The built-in functions keep to lines if the tokens do. -/
theorem supplies_oneLine {tokens : List Token} (plain : ∀ t ∈ tokens, lineFeeds t.text = 0) :
    (⟨tokens, Builtin.registry⟩ : Script).Supplies Value.OneLine where
  literal t member value literal := Token.oneLine_of_literal (plain t member) literal
  zero type := by
    cases type with
    | int => exact Value.oneLine_int 0
    | float => exact Value.oneLine_float 0.0
    | string => exact Value.lineFeeds_text (.string "")
  apply operator old value result before plain applies := Operator.oneLine_apply before plain applies
  reply name args reply value plain replied gave := by
    obtain ⟨native, found, _, rfl⟩ := Registry.call_eq_ok_iff.mp replied
    exact Builtin.oneLine_body (List.mem_of_find?_eq_some found) plain gave

/-- What is shown of tokens without a line feed has none. -/
theorem Shows.lineFeeds {script : Script} {text : String} (shows : script.Shows text)
    (plain : ∀ t ∈ script.tokens, lineFeeds t.text = 0) : lineFeeds text = 0 := by
  obtain ⟨t, member, rfl | contents⟩ := shows
  · exact plain t member
  · exact Nat.eq_zero_of_le_zero (plain t member ▸ Token.lineFeeds_contents contents)

private theorem lineFeeds_name {natives : Registry} {source : String} {symbol : Symbol}
    (member : symbol ∈ (checkSource natives source).symbols) : lineFeeds symbol.name = 0 := by
  obtain ⟨i, _, t, _, _, read, name, text, _⟩ := exists_declares_of_mem_symbols member
  have word : lineFeeds t.text = 0 :=
    lineFeeds_text_of_kind (List.mem_of_getElem? read) (by rw [(Token.isName_iff.mp name).1]; simp)
  rwa [text] at word

/-- The listing of the tokens of a source has a line for each of them, broken by the line feeds in string literals. -/
theorem lineFeeds_tokenListing (source : String) :
    lineFeeds (tokenListing (tokenize source)) = (tokenize source).length +
      (((tokenize source).filter fun t => t.kind = .stringLiteral).map fun t => lineFeeds t.text).sum := by
  apply lineFeeds_join_filter
  intro t member
  rw [t.lineFeeds_listing]
  split
  · rfl
  · rename_i noLiteral
    rw [lineFeeds_text_of_kind member (by simpa using noLiteral)]

/-- The listing of diagnostics has a line for each of them, broken by the line feeds in messages. -/
theorem lineFeeds_diagnosticListing (report : Report) :
    lineFeeds report.diagnosticListing = report.diagnostics.length +
      (report.diagnostics.map fun diagnostic => lineFeeds diagnostic.message).sum := by
  have feed : lineFeeds "\n" = 1 := by decide +kernel
  apply lineFeeds_join
  intro diagnostic _
  rw [lineFeeds_append, diagnostic.lineFeeds_text, feed, Nat.add_comm]

/-- The listing of the variables of a source has a line for each of them, broken by the line feeds in the values of
those that have been assigned to. -/
theorem lineFeeds_symbolListing (natives : Registry) (source : String) :
    lineFeeds (checkSource natives source).symbolListing = (checkSource natives source).symbols.length +
      (((checkSource natives source).symbols.filter Symbol.initialized).map fun symbol =>
        lineFeeds symbol.value.text).sum := by
  have feed : lineFeeds "\n" = 1 := by decide +kernel
  apply lineFeeds_join_filter
  intro symbol member
  rw [lineFeeds_append, symbol.lineFeeds_describe, lineFeeds_name member, feed, Nat.zero_add, Nat.add_comm]

/-- The listings of a source have one line for each token, diagnostic and variable, and besides one for each line
feed in the text of a string literal, in a message and in the value of a variable that has been assigned to. So
where no string literal holds a line feed, each item has one line. -/
theorem listings_lines (source : String) :
    let tokens := tokenize source
    let report := checkSource Builtin.registry source
    lineFeeds (tokenListing tokens) = tokens.length +
        ((tokens.filter fun t => t.kind = .stringLiteral).map fun t => lineFeeds t.text).sum ∧
      lineFeeds report.diagnosticListing = report.diagnostics.length +
        (report.diagnostics.map fun diagnostic => lineFeeds diagnostic.message).sum ∧
      lineFeeds report.symbolListing = report.symbols.length +
        ((report.symbols.filter Symbol.initialized).map fun symbol => lineFeeds symbol.value.text).sum ∧
      ((∀ t ∈ tokens, t.kind = .stringLiteral → lineFeeds t.text = 0) →
        lineFeeds (tokenListing tokens) = tokens.length ∧
          lineFeeds report.diagnosticListing = report.diagnostics.length ∧
          lineFeeds report.symbolListing = report.symbols.length) := by
  intro tokens report
  refine ⟨lineFeeds_tokenListing source, lineFeeds_diagnosticListing report,
    lineFeeds_symbolListing Builtin.registry source, fun literals => ?_⟩
  have plain : ∀ t ∈ tokens, lineFeeds t.text = 0 := by
    intro t member
    by_cases literal : t.kind = .stringLiteral
    · exact literals t member literal
    · exact lineFeeds_text_of_kind member literal
  refine ⟨?tokens, ?diagnostics, ?symbols⟩
  case tokens =>
    rw [lineFeeds_tokenListing, sum_held_eq_zero, Nat.add_zero]
    intro t member
    exact plain t (List.mem_filter.mp member).1
  case diagnostics =>
    rw [lineFeeds_diagnosticListing, sum_held_eq_zero, Nat.add_zero]
    intro diagnostic member
    obtain ⟨finding, found, rfl⟩ := List.mem_map.mp member
    have grounded := grounded_of_mem_findings ⟨tokens, Builtin.registry⟩ found
    exact Problem.lineFeeds_message fun text shown => (grounded.shown text shown).lineFeeds plain
  case symbols =>
    rw [lineFeeds_symbolListing, sum_held_eq_zero, Nat.add_zero]
    intro symbol member
    exact holds_stateAt (supplies_oneLine plain) tokens.length symbol (List.mem_filter.mp member).1

/-- A string literal on one line leaves each token, diagnostic and variable on one line. -/
theorem one_line_each :
    let source := "string s = \"a b\"; int i = s;"
    let report := checkSource Builtin.registry source
    lineFeeds (tokenListing (tokenize source)) = 10 ∧ lineFeeds report.diagnosticListing = 1 ∧
      lineFeeds report.symbolListing = 2 := by
  intro source report
  obtain ⟨_, _, _, plain⟩ := listings_lines source
  obtain ⟨listed, diagnosed, described⟩ := plain (by decide +kernel)
  exact ⟨listed.trans (by decide +kernel), diagnosed.trans (by decide +kernel), described.trans (by decide +kernel)⟩

/-- A string literal on two lines breaks the line of its token, that of a message that shows it and that of a
variable that holds it. -/
theorem broken_lines :
    (¬ ∀ source, lineFeeds (tokenListing (tokenize source)) = (tokenize source).length) ∧
      (¬ ∀ source, let report := checkSource Builtin.registry source
        lineFeeds report.diagnosticListing = report.diagnostics.length) ∧
      ¬ ∀ source, let report := checkSource Builtin.registry source
        lineFeeds report.symbolListing = report.symbols.length := by
  let source := "string s = \"a\nb\"; int i = \"a\nb\";"
  refine ⟨fun always => ?_, fun always => ?_, fun always => ?_⟩
  · exact absurd (always "\"a\nb\"") (by decide +kernel)
  · exact absurd (always source) (by decide +kernel)
  · exact absurd (always source) (by decide +kernel)

end Script

end ScriptCheck
