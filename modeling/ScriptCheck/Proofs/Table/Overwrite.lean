import ScriptCheck.Proofs.Table.Changes

/-! # Another value for a variable

Where a variable is declared on a level that a place does not reach, the place sees no difference when the variable
gets another value, of whatever type (`Table.resolve_overwrite`). Changes to other variables and declarations of
other names commute with that.
-/

namespace ScriptCheck

/-- The variable with another value, initialized or not. -/
def Symbol.overwrite (value : Value) (initialized : Bool) (symbol : Symbol) : Symbol :=
  { symbol with value, initialized }

@[simp] theorem Symbol.overwrite_name (value : Value) (initialized : Bool) (symbol : Symbol) :
    (symbol.overwrite value initialized).name = symbol.name := rfl

namespace Table

variable {table larger : Table} {name other : String} {symbol : Symbol} {site : Scope} {value : Value}
  {initialized : Bool}

def overwrite (table : Table) (name : String) (value : Value) (initialized : Bool) : Table :=
  table.change name (.overwrite value initialized)

theorem find?_overwrite_self (found : table.find? name = some symbol) :
    (table.overwrite name value initialized).find? name = some (symbol.overwrite value initialized) :=
  find?_change_self (Symbol.overwrite_name value initialized) found

theorem find?_overwrite_ne (different : other ≠ name) :
    (table.overwrite name value initialized).find? other = table.find? other :=
  find?_change_ne (Symbol.overwrite_name value initialized) different

theorem resolve_eq_hidden_iff : table.resolve name site = .hidden ↔
    ∃ symbol, table.find? name = some symbol ∧ symbol.scope.visibleFrom site = false := by
  unfold resolve
  cases table.find? name with
  | none => simp
  | some symbol => cases reached : symbol.scope.visibleFrom site <;> simp [reached]

/-- A place that does not reach a name sees no other value of it. -/
theorem resolve_overwrite (hidden : table.resolve name site = .hidden) (other : String) :
    (table.overwrite name value initialized).resolve other site = table.resolve other site := by
  by_cases same : other = name
  · obtain ⟨symbol, found, apart⟩ := resolve_eq_hidden_iff.mp hidden
    rw [same, hidden]
    exact resolve_eq_hidden_iff.mpr ⟨_, find?_overwrite_self found, apart⟩
  · rw [resolve, find?_overwrite_ne same, resolve]

/-- What a place reaches is not the name that it does not reach. -/
theorem ne_of_visible (hidden : table.resolve name site = .hidden)
    (visible : table.resolve other site = .visible value) : other ≠ name := by
  rintro rfl
  rw [hidden] at visible
  cases visible

theorem has_of_hidden (hidden : table.resolve name site = .hidden) : table.has name = true := by
  obtain ⟨symbol, found, _⟩ := resolve_eq_hidden_iff.mp hidden
  rw [has, found]
  rfl

/-- A declaration does not make a name reachable that is there already. -/
theorem hidden_declare {type : ValueType} {scope : Scope}
    (declared : table.declare? other type scope = some larger)
    (hidden : table.resolve name site = .hidden) : larger.resolve name site = .hidden := by
  obtain ⟨symbol, found, apart⟩ := resolve_eq_hidden_iff.mp hidden
  exact resolve_eq_hidden_iff.mpr ⟨symbol, find?_declare declared found, apart⟩

/-- No change that keeps places makes a name reachable. -/
theorem hidden_change {f : Symbol → Symbol} (names : ∀ symbol, (f symbol).name = symbol.name)
    (scopes : ∀ symbol, (f symbol).scope = symbol.scope) (hidden : table.resolve name site = .hidden) :
    (table.change other f).resolve name site = .hidden := by
  obtain ⟨symbol, found, apart⟩ := resolve_eq_hidden_iff.mp hidden
  rw [resolve_eq_hidden_iff, find?_change names, found]
  refine ⟨_, rfl, ?_⟩
  dsimp only
  split
  · rw [scopes]
    exact apart
  · exact apart

/-! ### What commutes with another value -/

/-- A change of another variable. -/
theorem change_overwrite {f : Symbol → Symbol} (keeps : ∀ symbol, (f symbol).name = symbol.name)
    (different : other ≠ name) : (table.overwrite name value initialized).change other f =
      (table.change other f).overwrite name value initialized := by
  obtain ⟨symbols⟩ := table
  simp only [overwrite, change, List.map_map]
  congr 1
  apply List.map_congr_left
  intro symbol _
  by_cases first : symbol.name = name
  · have apart : symbol.name ≠ other := fun same => different (same.symm.trans first)
    simp [first, Ne.symm different]
  · by_cases second : symbol.name = other <;> simp [first, second, different, keeps]

/-- A declaration, where the name is there already. -/
theorem declare?_overwrite {type : ValueType} {scope : Scope} (known : table.has name = true) :
    (table.overwrite name value initialized).declare? other type scope =
      (table.declare? other type scope).map (·.overwrite name value initialized) := by
  have same : (table.overwrite name value initialized).has other = table.has other := by
    rw [has, overwrite, find?_change (Symbol.overwrite_name value initialized), Option.isSome_map, has]
  unfold declare?
  rw [same]
  split
  · rfl
  · rename_i fresh
    have different : other ≠ name := by
      rintro rfl
      exact fresh known
    simp [overwrite, change, Symbol.declared, different]

/-- What a name held before it gets another value does not matter. -/
theorem overwrite_overwrite (table : Table) (name : String) (first second : Value) (once twice : Bool) :
    (table.overwrite name first once).overwrite name second twice = table.overwrite name second twice :=
  change_change (Symbol.overwrite_name first once) table name

end Table

end ScriptCheck
