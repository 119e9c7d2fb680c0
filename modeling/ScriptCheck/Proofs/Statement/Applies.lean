import ScriptCheck.Proofs.Call.Defined
import ScriptCheck.Proofs.Statement.Chain

/-! # Assignments that go through

An assignment applies where its target can be reached and every operand has a value of the target's type when
its turn comes (`Assignment.Applies`). The effect of an assignment initializes its target and no other variable,
and changes the values of its targets and no others (`Assignment.effect_frame`).
-/

namespace ScriptCheck

/-! ### The operators -/

/-- What the operators do: integers are added and subtracted modulo 2 ^ 64 (`Int64.size`), floats as they are,
and strings are joined. -/
inductive Operator.Combines : Operator → Value → Value → Value → Prop
  | addInt (a b c : Int64) (wraps : c.toInt = (a.toInt + b.toInt).bmod Int64.size) :
      Combines .plus (.int a) (.int b) (.int c)
  | subtractInt (a b c : Int64) (wraps : c.toInt = (a.toInt - b.toInt).bmod Int64.size) :
      Combines .minus (.int a) (.int b) (.int c)
  | addFloat (a b : Float) : Combines .plus (.float a) (.float b) (.float (a + b))
  | subtractFloat (a b : Float) : Combines .minus (.float a) (.float b) (.float (a - b))
  | join (a b : String) : Combines .plus (.string a) (.string b) (.string (a ++ b))

namespace Operator

variable {operator : Operator} {a b c : Value}

theorem apply_eq_some_iff : operator.apply a b = some c ↔ operator.Combines a b c := by
  constructor
  · intro applies
    cases operator <;> cases a <;> cases b <;> cases applies
    · exact .addInt _ _ _ (Int64.toInt_add _ _)
    · exact .addFloat _ _
    · exact .join _ _
    · exact .subtractInt _ _ _ (Int64.toInt_sub _ _)
    · exact .subtractFloat _ _
  · rintro (⟨a, b, c, wraps⟩ | ⟨a, b, c, wraps⟩ | ⟨a, b⟩ | ⟨a, b⟩ | ⟨a, b⟩)
    · rw [apply, Int64.toInt_inj.mp (wraps.trans (Int64.toInt_add a b).symm)]
    · rw [apply, Int64.toInt_inj.mp (wraps.trans (Int64.toInt_sub a b).symm)]
    · rfl
    · rfl
    · rfl

/-- On values of one type every operator has a result, except that strings are not subtracted. -/
theorem exists_apply (operator : Operator) (type : a.type = b.type)
    (joins : ¬ (operator = .minus ∧ a.type = .string)) :
    ∃ c, operator.apply a b = some c := by
  cases operator <;> cases a <;> cases b <;> simp_all [apply, Value.type]

end Operator

/-! ### Variables that hold a value of a type -/

namespace Table

variable {table : Table} {name other : String} {site : Scope} {type : ValueType} {value : Value}

/-- The name can be reached from `site` and holds a value of the type. -/
def Holds (table : Table) (name : String) (site : Scope) (type : ValueType) : Prop :=
  ∃ value, table.resolve name site = .visible value ∧ value.type = type

def initialized? (table : Table) (name : String) : Option Bool :=
  (table.find? name).map (·.initialized)

/-- A change that puts a value of the type there keeps what holds such a value. -/
theorem Holds.change {f : Symbol → Symbol} (holds : table.Holds name site type)
    (names : ∀ symbol, (f symbol).name = symbol.name) (scopes : ∀ symbol, (f symbol).scope = symbol.scope)
    (types : ∀ symbol, (f symbol).value.type = type) : (table.change other f).Holds name site type := by
  obtain ⟨value, visible, rfl⟩ := holds
  obtain ⟨symbol, found, reached, rfl⟩ := resolve_eq_visible_iff.mp visible
  have changed := find?_change names table other name
  rw [found, Option.map_some] at changed
  split at changed
  · exact ⟨_, resolve_eq_visible_iff.mpr ⟨_, changed, by rw [scopes]; exact reached, rfl⟩, types symbol⟩
  · exact ⟨_, resolve_eq_visible_iff.mpr ⟨_, changed, reached, rfl⟩, rfl⟩

private theorem Holds.assign (holds : table.Holds name site type) (same : value.type = type) :
    (table.assign other value).Holds name site type :=
  holds.change (Symbol.assign_name value) (fun _ => rfl) fun _ => same

private theorem Holds.update (holds : table.Holds name site type) (same : value.type = type) :
    (table.update other value).Holds name site type :=
  holds.change (Symbol.update_name value) (fun _ => rfl) fun _ => same

private theorem value?_update_ne (different : other ≠ name) :
    (table.update name value).value? other = table.value? other := by
  rw [value?, find?_update_ne value different, value?]

private theorem initialized?_update : (table.update name value).initialized? other = table.initialized? other := by
  rw [initialized?, update, find?_change (Symbol.update_name value), initialized?, Option.map_map]
  congr 1
  funext symbol
  by_cases same : symbol.name = name <;> simp [same, Symbol.update]

private theorem initialized?_assign_ne (different : other ≠ name) :
    (table.assign name value).initialized? other = table.initialized? other := by
  rw [initialized?, find?_assign_ne value different, initialized?]

private theorem initialized?_assign_self {symbol : Symbol} (found : table.find? name = some symbol) :
    (table.assign name value).initialized? name = some true := by
  rw [initialized?, find?_assign_self value found]
  rfl

end Table

/-! ### Operands in turn -/

/-- The operators apply, one after the other, when `last` is the variable that was named last: each operand has
a value of the type when its turn comes, and strings are not subtracted. -/
def ChainApplies (natives : Registry) (type : ValueType) : List Addend → Table → String → Prop
  | [], _, _ => True
  | addend :: rest, table, last =>
    (∃ value, addend.term.Yields natives table value ∧ value.type = type) ∧
      ¬ (addend.operator = .minus ∧ type = .string) ∧
        ∀ next, addend.fold natives table last = some next →
          ChainApplies natives type rest next (addend.term.named?.getD last)

/-- The target can be reached, the first operand has a value of its type, and the operators behind it apply. -/
def Assignment.Applies (natives : Registry) (statement : Assignment) (table : Table) : Prop :=
  ∃ value, statement.first.Yields natives table value ∧
    table.Holds statement.target.text statement.target.scope value.type ∧
      ChainApplies natives value.type statement.rest (table.assign statement.target.text value)
        (statement.first.named?.getD statement.target.text)

/-- The variables before the equal sign: a declaration has added its name. -/
def Assignment.declared? (statement : Assignment) (table : Table) : Option Table :=
  match statement.keyword with
  | none => some table
  | some keyword => keyword.kind.declares?.bind fun type =>
      table.declare? statement.target.text type statement.target.scope

/-- The variables that operators change, when `last` is the variable that was named last. -/
def chainTargets : List Addend → String → List String
  | [], _ => []
  | addend :: rest, last => last :: chainTargets rest (addend.term.named?.getD last)

/-- The variables that an assignment changes: its target, and the one that was named last before each
operator. -/
def Assignment.targets (statement : Assignment) : List String :=
  statement.target.text ::
    chainTargets statement.rest (statement.first.named?.getD statement.target.text)

section Frame

variable {natives : Registry} {table next : Table} {last name : String} {site place : Scope}
  {type : ValueType}

/-- What an operator that has a result has done. -/
theorem Addend.fold_eq_some {addend : Addend} (folded : addend.fold natives table last = some next) :
    ∃ operand old result, table.value? last = some old ∧
      addend.operator.apply old operand = some result ∧ next = table.update last result := by
  unfold fold at folded
  obtain ⟨operand, _, folded⟩ := Option.bind_eq_some_iff.mp folded
  obtain ⟨old, stored, folded⟩ := Option.bind_eq_some_iff.mp folded
  obtain ⟨result, applies, rfl⟩ := Option.map_eq_some_iff.mp folded
  exact ⟨operand, old, result, stored, applies, rfl⟩

/-- An operator on a variable that holds a value of the type keeps what holds such a value. -/
theorem Addend.holds_fold {addend : Addend} (folded : addend.fold natives table last = some next)
    (target : table.Holds last site type) (holds : table.Holds name place type) :
    next.Holds name place type := by
  obtain ⟨operand, old, result, stored, applies, rfl⟩ := fold_eq_some folded
  obtain ⟨current, visible, rfl⟩ := target
  obtain rfl := Option.some.inj (stored.symm.trans (Table.value?_of_visible visible))
  exact holds.update (Operator.type_apply applies).1.symm

/-- A variable that is an operand holds the operand's value. -/
theorem Term.holds_of_named {term : Term} {value : Value} (yields : term.Yields natives table value)
    (named : term.named? = some name) : table.Holds name term.head.scope value.type := by
  cases term with
  | single t isValue =>
    simp only [named?] at named
    split at named
    · rename_i isName
      obtain rfl := Option.some.inj named
      have literal := Token.literal?_of_isName isName
      obtain ⟨reached, has⟩ := yields
      obtain ⟨given, visible⟩ := reached literal
      rw [value?, literal, Option.none_or, Table.value?_of_visible visible] at has
      obtain rfl := Option.some.inj has
      exact ⟨given, visible, rfl⟩
    · cases named
  | bare callee name opening close => cases named
  | call callee name opening args close => cases named

/-- Behind a first operand on the target's level the variable that was named last holds a value of the
operand's type: it is the operand itself, or the target, which has been assigned. -/
theorem Term.holds_behind {term : Term} {target : Token} {value stored : Value}
    (yields : term.Yields natives table value) (level : term.head.scope = target.scope)
    (holds : table.Holds target.text target.scope value.type) (same : stored.type = value.type) :
    (table.assign target.text stored).Holds (term.named?.getD target.text) target.scope value.type := by
  cases isVariable : term.named? with
  | none => exact holds.assign same
  | some name =>
    have own := holds_of_named yields isVariable
    rw [level] at own
    exact own.assign same

/-- Operators initialize nothing, and change the values of their targets only. -/
theorem chain_frame {rest : List Addend} (effect : chain natives rest table last = some next) :
    (∀ name, next.initialized? name = table.initialized? name) ∧
      ∀ name, name ∉ chainTargets rest last → next.value? name = table.value? name := by
  induction rest generalizing table last with
  | nil =>
    obtain rfl := Option.some.inj effect
    exact ⟨fun _ => rfl, fun _ _ => rfl⟩
  | cons addend rest ih =>
    obtain ⟨middle, folded, effect⟩ := Option.bind_eq_some_iff.mp effect
    obtain ⟨_, _, result, _, _, rfl⟩ := Addend.fold_eq_some folded
    obtain ⟨flags, values⟩ := ih effect
    refine ⟨fun name => (flags name).trans Table.initialized?_update, fun name apart => ?_⟩
    rw [chainTargets, List.mem_cons, not_or] at apart
    rw [values name apart.2, Table.value?_update_ne apart.1]

/-- An assignment initializes its target and nothing else, and changes the values of its targets only. -/
theorem Assignment.effect_frame {statement : Assignment} {symbol : Symbol}
    (found : table.find? statement.target.text = some symbol)
    (effect : statement.effect natives table = some next) :
    next.initialized? statement.target.text = some true ∧
      (∀ name, name ≠ statement.target.text → next.initialized? name = table.initialized? name) ∧
        ∀ name, name ∉ statement.targets → next.value? name = table.value? name := by
  obtain ⟨value, _, effect⟩ := Option.bind_eq_some_iff.mp effect
  obtain ⟨flags, values⟩ := chain_frame effect
  refine ⟨?_, fun name apart => ?_, fun name apart => ?_⟩
  · rw [flags, Table.initialized?_assign_self found]
  · rw [flags, Table.initialized?_assign_ne apart]
  · rw [targets, List.mem_cons, not_or] at apart
    rw [values name apart.2, Table.value?_assign_ne value apart.1]

end Frame

end ScriptCheck
