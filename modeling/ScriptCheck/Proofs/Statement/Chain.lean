import ScriptCheck.Proofs.Call.Value

/-! # Assignments and chains of operators

An assignment stores its first operand. Each operator behind it then changes the variable that was named
last: the target, or the operand before the operator where that is a variable (`Assignment.effect`). The
effect is the value of the operands from left to right, stored into the target and nowhere else, as long as
no other variable stands before an operator and the target is not read once it has been changed
(`Assignment.effect_plain`).
-/

namespace ScriptCheck

structure Addend where
  sign : Token
  operator : Operator
  term : Term
  is : sign.kind.operator? = some operator

/-- A statement that assigns a chain of operands to a variable, which it may declare. -/
structure Assignment where
  keyword : Option Token
  target : Token
  equals : Mark .equals
  first : Term
  rest : List Addend
  semicolon : Mark .semicolon
  type : ∀ t ∈ keyword, t.isType = true
  name : target.isName = true

def Addend.tokens (addend : Addend) : List Token := addend.sign :: addend.term.tokens

def Assignment.source (statement : Assignment) : List Token :=
  statement.first.tokens ++ (statement.rest.flatMap Addend.tokens ++ [statement.semicolon.token])

def Assignment.tokens (statement : Assignment) : List Token :=
  statement.keyword.toList ++ statement.target :: statement.equals.token :: statement.source

/-! ### The effect of a chain -/

/-- Changes the variable `last` by an operator and its operand, both read in the same table. -/
def Addend.fold (natives : Registry) (addend : Addend) (table : Table) (last : String) :
    Option Table :=
  (addend.term.value? natives table).bind fun value =>
    (table.value? last).bind fun old =>
      (addend.operator.apply old value).map (table.update last)

/-- The effect of operators one after the other, when `last` is the variable that was named last. -/
def chain (natives : Registry) : List Addend → Table → String → Option Table
  | [], table, _ => some table
  | addend :: rest, table, last =>
    (addend.fold natives table last).bind fun next =>
      chain natives rest next (addend.term.named?.getD last)

/-- The variables behind an assignment, given those before its equal sign. -/
def Assignment.effect (natives : Registry) (statement : Assignment) (table : Table) :
    Option Table :=
  (statement.first.value? natives table).bind fun value =>
    chain natives statement.rest (table.assign statement.target.text value)
      (statement.first.named?.getD statement.target.text)

/-! ### From left to right -/

/-- The value of operands from left to right, all of them read in the same table. -/
def leftToRight (natives : Registry) (table : Table) : List Addend → Value → Option Value
  | [], value => some value
  | addend :: rest, value =>
    (addend.term.value? natives table).bind fun operand =>
      (addend.operator.apply value operand).bind (leftToRight natives table rest)

/-- The value that an assignment should store. -/
def Assignment.result? (natives : Registry) (statement : Assignment) (table : Table) :
    Option Value :=
  (statement.first.value? natives table).bind (leftToRight natives table statement.rest)

/-- No variable but the target stands before an operator, and the target is not read once it has been
changed: the second operand may read it where the first one is the target itself. -/
structure Assignment.Plain (statement : Assignment) : Prop where
  before : ∀ term ∈ (statement.first :: statement.rest.map (·.term)).dropLast,
    ∀ name ∈ term.named?, name = statement.target.text
  second : ∀ addend ∈ statement.rest.head?, statement.target.text ∈ addend.term.reads →
    statement.first.named? = some statement.target.text
  later : ∀ addend ∈ statement.rest.tail, statement.target.text ∉ addend.term.reads

namespace Table

variable {table : Table} {name : String}

theorem value?_assign_self (value : Value) :
    (table.assign name value).value? name = (table.value? name).map fun _ => value := by
  unfold value?
  cases found : table.find? name with
  | none => rw [assign, find?_change (Symbol.assign_name value), found]; rfl
  | some symbol => rw [find?_assign_self value found]; rfl

theorem value?_assign_ne (value : Value) {other : String} (different : other ≠ name) :
    (table.assign name value).value? other = table.value? other := by
  rw [value?, find?_assign_ne value different, value?]

private theorem value?_assign_same {value : Value} (stored : table.value? name = some value)
    (other : String) : (table.assign name value).value? other = table.value? other := by
  by_cases same : other = name
  · rw [same, value?_assign_self, stored, Option.map_some]
  · exact value?_assign_ne value same

end Table

section Plain

variable {natives : Registry} {table next : Table} {x : String} {value : Value}

/-- A term that does not read the target has the same value once the target has been changed. -/
theorem Term.value?_assign {term : Term} (apart : x ∉ term.reads) :
    term.value? natives (table.assign x value) = term.value? natives table := by
  apply Term.value?_congr
  intro name member
  apply Table.value?_assign_ne
  rintro rfl
  exact apart member

/-- An operator that changes the target after `value` was stored there. -/
theorem Addend.fold_assigned {addend : Addend}
    (same : addend.term.value? natives (table.assign x value) = addend.term.value? natives table)
    (folded : addend.fold natives (table.assign x value) x = some next) :
    ∃ operand result, addend.term.value? natives table = some operand ∧
      addend.operator.apply value operand = some result ∧ next = table.assign x result := by
  unfold fold at folded
  rw [same] at folded
  obtain ⟨operand, has, folded⟩ := Option.bind_eq_some_iff.mp folded
  obtain ⟨old, stored, folded⟩ := Option.bind_eq_some_iff.mp folded
  obtain ⟨result, applies, rfl⟩ := Option.map_eq_some_iff.mp folded
  obtain rfl : old = value := by
    rw [Table.value?_assign_self] at stored
    obtain ⟨_, _, rfl⟩ := Option.map_eq_some_iff.mp stored
    rfl
  exact ⟨operand, result, has, applies, table.update_assign x old result⟩

/-- Where no variable but `x` stands before an operator, `x` stays the variable that was named last. -/
theorem named_last {first : Term} {terms : List Term}
    (before : ∀ term ∈ (first :: terms).dropLast, ∀ name ∈ term.named?, name = x) :
    (terms ≠ [] → first.named?.getD x = x) ∧
      ∀ term ∈ terms.dropLast, ∀ name ∈ term.named?, name = x := by
  constructor
  · intro more
    rw [List.dropLast_cons_of_ne_nil more] at before
    cases isVariable : first.named? with
    | none => rfl
    | some name => exact before first (List.mem_cons_self ..) name isVariable
  · intro term member
    apply before term
    rw [List.dropLast_cons_of_ne_nil fun none => by simp [none] at member]
    exact List.mem_cons_of_mem _ member

/-- As long as the target was named last, operators compute from left to right. -/
theorem chain_plain {rest : List Addend} {last : String} (aim : rest.map (·.term) ≠ [] → last = x)
    (before : ∀ term ∈ (rest.map (·.term)).dropLast, ∀ name ∈ term.named?, name = x)
    (head : ∀ addend ∈ rest.head?,
      addend.term.value? natives (table.assign x value) = addend.term.value? natives table)
    (later : ∀ addend ∈ rest.tail, x ∉ addend.term.reads)
    (effect : chain natives rest (table.assign x value) last = some next) :
    ∃ result, leftToRight natives table rest value = some result ∧
      next = table.assign x result := by
  induction rest generalizing value last with
  | nil => exact ⟨value, rfl, (Option.some.inj effect).symm⟩
  | cons addend rest ih =>
    obtain rfl : last = x := aim (by simp)
    obtain ⟨middle, folded, effect⟩ := Option.bind_eq_some_iff.mp effect
    obtain ⟨operand, result, has, applies, rfl⟩ := Addend.fold_assigned (head addend rfl) folded
    obtain ⟨aims, others⟩ := named_last before
    obtain ⟨final, computes, rfl⟩ := ih aims others
      (fun addend member => Term.value?_assign (later addend (List.mem_of_mem_head? member)))
      (fun addend member => later addend (List.mem_of_mem_tail member)) effect
    exact ⟨final, by simp [leftToRight, has, applies, computes], rfl⟩

/-- A plain assignment stores the value of its operands from left to right, and changes no other
variable. -/
theorem Assignment.effect_plain {statement : Assignment} (plain : statement.Plain)
    (effect : statement.effect natives table = some next) :
    ∃ result, statement.result? natives table = some result ∧
      next = table.assign statement.target.text result := by
  obtain ⟨value, has, effect⟩ := Option.bind_eq_some_iff.mp effect
  obtain ⟨aims, others⟩ := named_last plain.before
  have head : ∀ addend ∈ statement.rest.head?,
      addend.term.value? natives (table.assign statement.target.text value) =
        addend.term.value? natives table := by
    intro addend member
    by_cases reads : statement.target.text ∈ addend.term.reads
    · -- The first operand is the target, which keeps its value.
      have isTarget := plain.second addend member reads
      rw [Term.value?_of_variable isTarget] at has
      exact Term.value?_congr addend.term fun name _ => Table.value?_assign_same has name
    · exact Term.value?_assign reads
  obtain ⟨result, computes, rfl⟩ := chain_plain aims others head plain.later effect
  exact ⟨result, by simp [result?, has, computes], rfl⟩

end Plain

end ScriptCheck
