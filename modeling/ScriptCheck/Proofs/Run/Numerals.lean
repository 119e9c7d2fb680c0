import ScriptCheck.Native.Builtin
import ScriptCheck.Proofs.Call.Invoked
import ScriptCheck.Proofs.Numeral.Grammar
import ScriptCheck.Proofs.Run.Names
import ScriptCheck.Proofs.Token.Kinds

/-! # Numerals of digits

Names and numerals are tokens of one kind, and the text alone tells them apart. A text of digits is a numeral as
long as its number fits 64 bits, however many zeros it begins with: no variable has such a name, and in a script
without diagnostics the number is what is stored, combined or passed where the text is used
(`Script.digits_denote`). A larger number is no numeral, so its text is a name like any other
(`Script.digits_named`).
-/

namespace ScriptCheck

/-! ### Texts of digits -/

namespace AllDigits

variable {text : String}

/-- A text of digits is no mark, no keyword and no string literal. -/
theorem kind_told (digits : AllDigits text) : Kind.told text = .identifier := by
  have noQuote : ¬ text.toList.head? = some '"' := by
    intro quote
    exact absurd (List.all_eq_true.mp digits.2 _ (List.mem_of_head? quote)) (by decide)
  rw [Kind.told, if_neg noQuote]
  unfold Kind.ofText
  split
  case h_13 => rfl
  all_goals exact absurd digits (by decide)

end AllDigits

/-- A text of digits whose number fits 64 bits is the literal of that number. -/
theorem Token.literal?_of_digits {t : Token} (kind : t.kind = .identifier) (digits : AllDigits t.text)
    (fits : Decimal.ofDigits t.text.toList ≤ Value.largestInt) :
    t.literal? = some (.int (Int64.ofNat (Decimal.ofDigits t.text.toList))) := by
  rw [literal?, number?, if_pos kind, digits.value?_eq, if_pos fits, Option.some_or]

/-- A name of digits is the text of a number that does not fit 64 bits. -/
theorem Token.largestInt_lt_of_isName {t : Token} (name : t.isName = true) (digits : AllDigits t.text) :
    Value.largestInt < Decimal.ofDigits t.text.toList := by
  apply Nat.lt_of_not_le
  intro fits
  have literal := Token.literal?_of_digits (Token.isName_iff.mp name).1 digits fits
  rw [Token.not_isName_of_literal? literal] at name
  cases name

/-! ### The arguments of a call, one by one -/

def Arguments.terms : Arguments → List Term
  | .last term => [term]
  | .more term _ rest => term :: rest.terms

private theorem Arguments.value?_of_getElem? {natives : Registry} {table : Table} (args : Arguments)
    {values : List Value} {k : Nat} {term : Term} (held : args.values? natives table = some values)
    (here : args.terms[k]? = some term) : term.value? natives table = values[k]? := by
  cases args with
  | last only =>
    obtain ⟨value, has, rfl⟩ := Option.map_eq_some_iff.mp held
    cases k with
    | zero =>
      obtain rfl : only = term := by simpa [terms] using here
      exact has
    | succ k => cases here
  | more first comma rest =>
    obtain ⟨value, has, others⟩ := Option.bind_eq_some_iff.mp held
    obtain ⟨values, had, rfl⟩ := Option.map_eq_some_iff.mp others
    cases k with
    | zero =>
      obtain rfl : first = term := by simpa [terms] using here
      exact has
    | succ k =>
      rw [List.getElem?_cons_succ]
      exact Arguments.value?_of_getElem? rest had here

namespace Script

variable {script : Script} {i : Nat} {t : Token} {value : Value}

/-- In a run the token `t` at position `i` stands for the value, wherever it is used. -/
structure Denotes (script : Script) (i : Nat) (t : Token) (value : Value) : Prop where
  /-- Behind an equal sign the value is stored into what stands before the sign. -/
  source : ∀ equals, script.before? i 1 = some equals → equals.kind = .equals →
    ∃ target, script.before? i 2 = some target ∧
      (script.progressAt i).events = [.stored ⟨i, t⟩ target.text value]
  /-- Behind an operator with an operand before it the value is the other operand. The variable that the operator
  changes, if there is one, is changed by it. -/
  operand : ∀ op operator, script.before? i 1 = some op → op.kind.operator? = some operator →
    script.hasLeft i = true →
      (script.operand (script.stateAt i).table i op t).operand = some ⟨value, i⟩ ∧
      (script.foldTarget (script.stateAt i) i = none ∧ (script.progressAt i).events = [] ∨
        ∃ target named old result, script.foldTarget (script.stateAt i) i = some target ∧
          script.tokens[target]? = some named ∧ (script.stateAt i).table.value? named.text = some old ∧
          operator.apply old value = some result ∧
          (script.progressAt i).events = [.folded ⟨i, t⟩ named.text op.text result])
  /-- It is not what an operator changes. -/
  kept : ∀ j op, script.before? j 1 = some op → op.kind.operator?.isSome →
    script.foldTarget (script.stateAt j) j ≠ some i
  /-- Where it is the argument number `k` of a call, the registry is reached for that call, unless the call stands
  behind a sign, and whenever it is reached, the value is the argument number `k`. -/
  argument : ∀ {c : Nat} {callee : Token} {name : callee.isName = true} {opening : Mark .openParen}
    {args : Arguments} {close : Mark .closeParen} {k : Nat} {isValue : t.isValue = true},
    script.Stands c (Term.call callee name opening args close).tokens →
      args.terms[k]? = some (.single t isValue) →
        (script.followsSign c = false → ∃ call ∈ script.run.invocations, call.callee.position = c) ∧
        ∀ call ∈ script.run.invocations, call.callee.position = c → call.args[k]? = some value

/-! ### A literal that is used -/

private theorem not_isCallee_of_literal? (read : script.tokens[i]? = some t) (literal : t.literal? = some value) :
    script.isCallee i = false := by
  apply Bool.eq_false_iff.mpr
  intro callee
  have name := isName_of_isCallee callee read
  rw [Token.not_isName_of_literal? literal] at name
  cases name

/-- A literal behind an equal sign that finds nothing wrong is stored, and nothing else happens. -/
theorem stored_of_clean_assign {state : State} {target : Token} (read : script.tokens[i]? = some t)
    (literal : t.literal? = some value) (accepted : i - 2 ∉ state.refused)
    (clean : Event.Clean (script.assign state i target t).progress.events) :
    (script.assign state i target t).continues = true ∧
      (script.assign state i target t).progress.events = [.stored ⟨i, t⟩ target.text value] := by
  have single := not_isCallee_of_literal? read literal
  have isValue := Token.isValue_of_literal? literal
  obtain ⟨_, _, ⟨symbol, found⟩, continues, _⟩ := assign_single_clean single isValue accepted clean
  obtain ⟨_, settled⟩ := State.destination_clean accepted (destination_clean_of_assign clean)
  refine ⟨continues, ?_⟩
  simp only [assign, single, Bool.false_eq_true, if_false, isValue, Bool.not_true, literal, settled,
    Progress.after_events, List.nil_append] at clean ⊢
  rw [State.store_clean found clean]

/-- A literal is an operand with its own value, and finding that asks for nothing else. -/
theorem operand_of_literal? (table : Table) (op : Token) (read : script.tokens[i]? = some t)
    (literal : t.literal? = some value) : script.operand table i op t = { operand := some ⟨value, i⟩ } := by
  simp only [operand, not_isCallee_of_literal? read literal, Bool.false_eq_true, if_false, literal]

/-- A call that stands behind no sign in a script without diagnostics is made with the values of its arguments. -/
theorem exists_invoked {c : Nat} {term : Term} (clean : script.report.diagnostics = [])
    (stands : script.Stands c term.tokens) (long : 1 < term.tokens.length) (calls : script.isCallee c = true)
    (unsigned : script.followsSign c = false) :
    ∃ table, ∃ call ∈ script.run.invocations, call.callee.position = c ∧
      term.arguments? script.natives table = some call.args := by
  obtain ⟨n, _, u, table, atN, callee, evaluates, met⟩ :=
    (faultless_of_clean clean (c + 1)).met c (mem_evaluated_succ clean calls unsigned)
  have within := (events_infix_evaluate atN callee c met _ (head_of_stands stands)).subset
  have quiet := (evaluates.clean (clean_progressAt clean n)).of_subset within
  obtain ⟨_, found, call, made, same, reply, replied, _⟩ :=
    ran_evaluate (head_of_stands stands) calls quiet c (List.mem_cons_self ..)
  have own : call.callee.position = c := by rw [same]
  obtain ⟨native, ready⟩ := ready_of_stands stands long made own (by rw [replied]; rfl)
  have outer : call ∈ (script.evaluate table n u).invocations := List.filterMap_subset _ within made
  exact ⟨table, call, evaluates.invocations_subset atN outer, own, ready.held⟩

section

variable (clean : script.report.diagnostics = [])
include clean

private theorem stored_of_literal? {equals : Token} (read : script.tokens[i]? = some t)
    (literal : t.literal? = some value) (before : script.before? i 1 = some equals)
    (kind : equals.kind = .equals) :
    ∃ target, script.before? i 2 = some target ∧
      (script.progressAt i).events = [.stored ⟨i, t⟩ target.text value] := by
  obtain ⟨k, target, rfl, found, _⟩ := exists_assigned clean before kind
  have assigned : script.before? (k + 2) 2 = some target := by simpa [before?] using found
  have notOperator : equals.kind.operator? = none := by
    rw [kind]
    rfl
  have accepted : k + 2 - 2 ∉ (script.stateAt (k + 2)).refused := by
    rw [refused_stateAt_of_clean clean]
    exact List.not_mem_nil
  obtain ⟨continues, events⟩ :=
    stored_of_clean_assign read literal accepted (clean_assign_of_clean clean before kind assigned read)
  refine ⟨target, assigned, ?_⟩
  rw [progressAt, step_eq_follow (faultless_of_clean clean _).visits before read, follow, notOperator]
  simp only [kind, if_true, assigned, continues, Progress.after_events, events]
  rw [checkGrammar_behind_equals kind (Token.isValue_of_literal? literal) (not_isCallee_of_literal? read literal)]
  rfl

private theorem folded_of_literal? {op : Token} {operator : Operator} (read : script.tokens[i]? = some t)
    (literal : t.literal? = some value) (before : script.before? i 1 = some op)
    (isOperator : op.kind.operator? = some operator) (left : script.hasLeft i = true) :
    script.foldTarget (script.stateAt i) i = none ∧ (script.progressAt i).events = [] ∨
      ∃ target named old result, script.foldTarget (script.stateAt i) i = some target ∧
        script.tokens[target]? = some named ∧ (script.stateAt i).table.value? named.text = some old ∧
        operator.apply old value = some result ∧
        (script.progressAt i).events = [.folded ⟨i, t⟩ named.text op.text result] := by
  have quiet := clean_progressAt clean i
  have step : script.progressAt i = script.useOperand (script.stateAt i) i operator op t
      { operand := some ⟨value, i⟩ } := by
    rw [progressAt, step_eq_follow (faultless_of_clean clean i).visits before read, follow, isOperator]
    simp only [combine, left, Bool.not_true, Bool.false_eq_true, if_false, operand_of_literal? _ op read literal]
    rfl
  rw [step, useOperand] at quiet ⊢
  cases aim : script.foldTarget (script.stateAt i) i with
  | none => exact .inl ⟨rfl, rfl⟩
  | some target =>
    right
    have scanned := aim
    rw [foldTarget_stateAt before (by simp [isOperator])] at scanned
    obtain ⟨named, found, _⟩ := exists_name_of_nearest? scanned
    simp only [aim, foldAt, refused_stateAt_of_clean clean, found, List.contains_nil, Bool.false_eq_true, if_false,
      Progress.after_events, List.nil_append] at quiet ⊢
    obtain ⟨old, result, had, applies, folded⟩ := State.fold_clean quiet
    exact ⟨target, named, old, result, rfl, found, had, applies, congrArg Progress.events folded⟩

private theorem passed_of_literal? (literal : t.literal? = some value) {c k : Nat} {callee : Token}
    {name : callee.isName = true} {opening : Mark .openParen} {args : Arguments} {close : Mark .closeParen}
    {isValue : t.isValue = true}
    (stands : script.Stands c (Term.call callee name opening args close).tokens)
    (here : args.terms[k]? = some (.single t isValue)) :
    (script.followsSign c = false → ∃ call ∈ script.run.invocations, call.callee.position = c) ∧
      ∀ call ∈ script.run.invocations, call.callee.position = c → call.args[k]? = some value := by
  have long : 1 < (Term.call callee name opening args close).tokens.length := by simp [Term.tokens]
  have invoked := exists_invoked clean stands long (isCallee_of_stands name stands)
  constructor
  · intro unsigned
    obtain ⟨_, call, made, own, _⟩ := invoked unsigned
    exact ⟨call, made, own⟩
  · intro call made own
    obtain ⟨table, other, alsoMade, same, held⟩ := invoked (own ▸ not_followsSign_of_called made)
    obtain rfl := eq_of_callee made alsoMade (own.trans same.symm)
    rw [← args.value?_of_getElem? held here, Term.value?, literal, Option.some_or]

/-- In a script without diagnostics a literal stands for its own value. -/
theorem denotes_of_literal? (read : script.tokens[i]? = some t) (literal : t.literal? = some value) :
    script.Denotes i t value where
  source _ before kind := stored_of_literal? clean read literal before kind
  operand op _ before isOperator left := by
    rw [operand_of_literal? _ op read literal]
    exact ⟨rfl, folded_of_literal? clean read literal before isOperator left⟩
  kept j op before operates aim := by
    rw [foldTarget_stateAt before operates] at aim
    obtain ⟨named, found, name⟩ := exists_name_of_nearest? aim
    obtain rfl : t = named := by simpa [read] using found
    rw [Token.not_isName_of_literal? literal] at name
    cases name
  argument stands here := passed_of_literal? clean literal stands here

end

/-- An integer of digits that fits 64 bits, with any number of zeros in front, is never a name: no variable of a
report is called so, and in a script without diagnostics it stands for the number that its digits write wherever it
is assigned, an operand or an argument. -/
theorem digits_denote (natives : Registry) (source : String) :
    (∀ symbol ∈ (checkSource natives source).symbols, AllDigits symbol.name →
        Value.largestInt < Decimal.ofDigits symbol.name.toList) ∧
      ((checkSource natives source).diagnostics = [] →
        ∀ (i : Nat) (t : Token), (tokenize source)[i]? = some t → AllDigits t.text →
          Decimal.ofDigits t.text.toList ≤ Value.largestInt →
            ∃ n : Int64, n.toInt = Decimal.ofDigits t.text.toList ∧
              Script.Denotes ⟨tokenize source, natives⟩ i t (.int n)) := by
  constructor
  · intro symbol member digits
    obtain ⟨_, _, t, _, _, _, name, text, _⟩ := exists_declares_of_mem_symbols member
    have same : t.text = symbol.name := text
    rw [← same] at digits ⊢
    exact Token.largestInt_lt_of_isName name digits
  · intro clean i t read digits fits
    have kind : t.kind = .identifier := by
      rw [kind_of_mem_tokenize (List.mem_of_getElem? read), digits.kind_told]
    refine ⟨Int64.ofNat (Decimal.ofDigits t.text.toList), ?_, ?_⟩
    · exact Int64.toInt_ofNat_of_lt (Nat.lt_of_le_of_lt fits (by decide))
    · exact denotes_of_literal? clean read (Token.literal?_of_digits kind digits fits)

/-- Zeros in front do not make a name of an integer. -/
theorem leading_zeros_denote :
    let source := "int x = 007; x + 40; string s = toString(2);"
    let t : Token := ⟨.identifier, "007", 1, ⟨0, 0⟩, ⟨8, 11⟩⟩
    (checkSource Builtin.registry source).diagnostics = [] ∧ (tokenize source)[3]? = some t ∧ AllDigits t.text ∧
      Decimal.ofDigits t.text.toList ≤ Value.largestInt ∧
        ∃ n : Int64, n.toInt = Decimal.ofDigits t.text.toList ∧
          Script.Denotes ⟨tokenize source, Builtin.registry⟩ 3 t (.int n) := by
  intro source t
  have clean : (checkSource Builtin.registry source).diagnostics = [] := by decide +kernel
  have read : (tokenize source)[3]? = some t := by decide +kernel
  have digits : AllDigits t.text := by decide
  have fits : Decimal.ofDigits t.text.toList ≤ Value.largestInt := by decide +kernel
  exact ⟨clean, read, digits, fits, (digits_denote Builtin.registry source).2 clean 3 t read digits fits⟩

/-- Digits beyond 64 bits can name a variable, and then they stand for what it holds and not for their number. -/
theorem digits_named :
    (¬ ∀ source, ∀ symbol ∈ (checkSource Builtin.registry source).symbols, ¬ AllDigits symbol.name) ∧
      ¬ ∀ (source : String) (i : Nat) (t : Token) (target : String) (value : Value),
        (checkSource Builtin.registry source).diagnostics = [] → AllDigits t.text →
          .stored ⟨i, t⟩ target value ∈ (run ⟨tokenize source, Builtin.registry⟩).events →
            ∃ n : Int64, value = .int n ∧ n.toInt = Decimal.ofDigits t.text.toList := by
  constructor
  · intro never
    have named := never "int 9223372036854775808;"
      ⟨"9223372036854775808", .int 0, ⟨0, 0⟩, false⟩ (by decide +kernel)
    exact named (by decide)
  · intro always
    obtain ⟨n, zero, number⟩ := always "int 9223372036854775808; int x = 9223372036854775808;" 6
      ⟨.identifier, "9223372036854775808", 1, ⟨0, 0⟩, ⟨33, 52⟩⟩ "x" (.int 0) (by decide +kernel) (by decide)
      (by decide +kernel)
    obtain rfl : 0 = n := Value.int.inj zero
    exact absurd number (by decide +kernel)

end Script

end ScriptCheck
