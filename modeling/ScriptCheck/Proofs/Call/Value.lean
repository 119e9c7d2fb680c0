import ScriptCheck.Proofs.Call.Clean
import ScriptCheck.Proofs.Call.Term

/-! # The value of a term

The value of a term is read off the term, the variables and the functions of the host. Where passing a term
finds nothing wrong, this value is what the call around it receives (`Term.pass_clean`), and the value that
evaluating the term as an operand gives (`Script.evaluate_clean`). It depends on the variables that the term
reads and on no others (`Term.value?_congr`).
-/

namespace ScriptCheck

mutual

/-- The value of a term: that of a literal or of a variable, or the value that a function gives. -/
def Term.value? (natives : Registry) (table : Table) : Term → Option Value
  | .single t _ => t.literal?.or (table.value? t.text)
  | .bare callee _ _ _ => natives.value? callee.text []
  | .call callee _ _ args _ => (args.values? natives table).bind (natives.value? callee.text)

def Arguments.values? (natives : Registry) (table : Table) : Arguments → Option (List Value)
  | .last term => (term.value? natives table).map fun value => [value]
  | .more term _ rest =>
    (term.value? natives table).bind fun value =>
      (rest.values? natives table).map fun values => value :: values

end

/-! ### Passing without a finding -/

mutual

/-- Where passing a term finds nothing wrong, the call around it receives the value of the term. -/
theorem Term.pass_clean {natives : Registry} {table : Table} (term : Term) {position : Nat}
    {frame : Frame} (clean : Event.Clean (term.pass natives table position frame).events) :
    ∃ value, term.value? natives table = some value ∧
      (term.pass natives table position frame).frame = frame.push value := by
  cases term with
  | single t _ => exact Frame.take_clean clean
  | bare callee name opening close =>
    simp only [Term.pass, Passage.close, Event.clean_append] at clean ⊢
    exact Frame.receive_clean rfl clean.2.1 clean.2.2
  | call callee name opening args close =>
    simp only [Term.pass, Passage.close, Passage.behind, Event.clean_append] at clean ⊢
    obtain ⟨values, has, frame_eq⟩ := Arguments.pass_clean args clean.1.2
    simp only [frame_eq] at clean ⊢
    obtain ⟨value, gives, received⟩ := Frame.receive_clean rfl clean.2.1 clean.2.2
    refine ⟨value, ?_, received⟩
    rw [Term.value?, has]
    exact gives

theorem Arguments.pass_clean {natives : Registry} {table : Table} (args : Arguments) {position : Nat}
    {frame : Frame} (clean : Event.Clean (args.pass natives table position frame).events) :
    ∃ values, args.values? natives table = some values ∧
      (args.pass natives table position frame).frame =
        { frame with args := frame.args ++ values } := by
  cases args with
  | last term =>
    obtain ⟨value, has, frame_eq⟩ := Term.pass_clean term clean
    exact ⟨[value], by rw [Arguments.values?, has, Option.map_some], frame_eq⟩
  | more term comma rest =>
    simp only [Arguments.pass, Passage.behind, Event.clean_append] at clean ⊢
    obtain ⟨value, has, frame_eq⟩ := Term.pass_clean term clean.1
    obtain ⟨values, others, rest_eq⟩ := Arguments.pass_clean rest clean.2
    refine ⟨value :: values, by simp [Arguments.values?, has, others], ?_⟩
    rw [rest_eq, frame_eq]
    simp [Frame.push]

end

/-! ### The variables that a term reads -/

mutual

/-- The names of the variables that a term reads. -/
def Term.reads : Term → List String
  | .single t _ => if t.literal?.isSome then [] else [t.text]
  | .bare _ _ _ _ => []
  | .call _ _ _ args _ => args.reads

def Arguments.reads : Arguments → List String
  | .last term => term.reads
  | .more term _ rest => term.reads ++ rest.reads

end

mutual

/-- The value of a term depends on the variables that it reads. -/
theorem Term.value?_congr {natives : Registry} {first second : Table} (term : Term)
    (same : ∀ name ∈ term.reads, first.value? name = second.value? name) :
    term.value? natives first = term.value? natives second := by
  cases term with
  | single t _ =>
    simp only [Term.value?]
    cases literal : t.literal? with
    | some value => rfl
    | none =>
      simp only [Option.none_or]
      exact same t.text (by simp [Term.reads, literal])
  | bare callee name opening close => rfl
  | call callee name opening args close =>
    rw [Term.value?, Term.value?, Arguments.values?_congr args same]

theorem Arguments.values?_congr {natives : Registry} {first second : Table} (args : Arguments)
    (same : ∀ name ∈ args.reads, first.value? name = second.value? name) :
    args.values? natives first = args.values? natives second := by
  cases args with
  | last term => rw [Arguments.values?, Arguments.values?, Term.value?_congr term same]
  | more term comma rest =>
    simp only [Arguments.reads, List.mem_append] at same
    rw [Arguments.values?, Arguments.values?, Term.value?_congr term fun name member =>
      same name (.inl member), Arguments.values?_congr rest fun name member => same name (.inr member)]

end

/-! ### Evaluating a term of a script -/

def Term.head : Term → Token
  | .single t _ => t
  | .bare callee _ _ _ => callee
  | .call callee _ _ _ _ => callee

/-- The variable that a term is, if it is one. -/
def Term.named? : Term → Option String
  | .single t _ => if t.isName then some t.text else none
  | _ => none

theorem Token.literal?_of_isName {t : Token} (name : t.isName = true) : t.literal? = none := by
  obtain ⟨kind, notNumber⟩ := Token.isName_iff.mp name
  simp only [isNumber, Option.isSome_eq_false_iff, Option.isNone_iff_eq_none] at notNumber
  simp [literal?, notNumber, contents?, kind]

theorem Token.not_isName_of_literal? {t : Token} {value : Value} (literal : t.literal? = some value) :
    t.isName = false := by
  apply Bool.eq_false_iff.mpr
  intro name
  rw [Token.literal?_of_isName name] at literal
  cases literal

theorem Term.value?_of_variable {natives : Registry} {table : Table} {term : Term} {name : String}
    (isVariable : term.named? = some name) : term.value? natives table = table.value? name := by
  cases term with
  | single t _ =>
    simp only [named?] at isVariable
    split at isVariable
    · rename_i isName
      obtain rfl := Option.some.inj isVariable
      rw [value?, Token.literal?_of_isName isName, Option.none_or]
    · cases isVariable
  | bare callee name opening close => cases isVariable
  | call callee name opening args close => cases isVariable

namespace Script

variable {script : Script} {table : Table} {p : Nat} {term : Term}

theorem head_of_stands (stands : script.Stands p term.tokens) :
    script.tokens[p]? = some term.head := by
  cases term <;> exact (stands_cons.mp stands).1

/-- Evaluating a call finds nothing wrong: so it is closed by its last token and has its value. -/
theorem evaluate_clean (stands : script.Stands p term.tokens)
    (callee : script.isCallee p = true)
    (apart : ∀ t, script.tokens[p + term.tokens.length]? = some t → t.kind ≠ .openParen)
    (clean : Event.Clean (script.evaluate table p term.head).events) :
    (script.evaluate table p term.head).close = some (p + term.tokens.length - 1) ∧
      (script.evaluate table p term.head).resume = 0 ∧
      (script.evaluate table p term.head).outcome =
        match term.value? script.natives table with
        | some value => .value value
        | none => .void := by
  cases term with
  | single t value =>
    obtain ⟨_, u, _, _, next, opens⟩ := isCallee_iff.mp callee
    exact absurd opens (apart u next)
  | bare callee name opening close =>
    simp only [Term.head] at clean ⊢
    rw [evaluate_bare table stands] at clean ⊢
    exact ⟨rfl, rfl, Frame.run_clean rfl clean⟩
  | call callee name opening args close =>
    simp only [Term.head] at clean ⊢
    rw [evaluate_call table stands] at clean ⊢
    simp only [closing, Passage.behind, Event.clean_append] at clean ⊢
    obtain ⟨values, has, frame_eq⟩ := Arguments.pass_clean args clean.1.2
    rw [frame_eq] at clean ⊢
    refine ⟨?_, trivial, ?_⟩
    · simp only [Term.tokens, List.length_cons, List.length_append, List.length_nil]
      congr 1
      omega
    · rw [Frame.run_clean rfl clean.2, Term.value?, has]
      rfl

end Script

end ScriptCheck
