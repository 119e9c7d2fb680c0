import ScriptCheck.Table

/-! # Changing the table of variables

A change of one variable is not seen under any other name (`Table.find?_change_ne`), and a declaration
leaves the variables that are there as they are (`Table.find?_declare`). No change touches the name, the
type or the place of a variable.
-/

namespace ScriptCheck

namespace Symbol

@[simp] theorem assign_name (value : Value) (symbol : Symbol) :
    (symbol.assign value).name = symbol.name := rfl

@[simp] theorem update_name (value : Value) (symbol : Symbol) :
    (symbol.update value).name = symbol.name := rfl

/-- After an assignment an update is an assignment of its own. -/
@[simp] theorem update_assign (first second : Value) (symbol : Symbol) :
    (symbol.assign first).update second = symbol.assign second := rfl

end Symbol

namespace Table

variable {table : Table} {name : String} {symbol : Symbol}

theorem name_of_find? (found : table.find? name = some symbol) : symbol.name = name := by
  simpa using List.find?_some found

/-- A change that keeps names does not change where a name is found. -/
theorem find?_change {f : Symbol → Symbol} (keeps : ∀ symbol, (f symbol).name = symbol.name)
    (table : Table) (name other : String) :
    (table.change name f).find? other =
      (table.find? other).map fun symbol => if symbol.name = name then f symbol else symbol := by
  simp only [find?, change, List.find?_map]
  congr 2
  funext symbol
  by_cases same : symbol.name = name <;> simp [same, keeps]

theorem find?_change_self {f : Symbol → Symbol} (keeps : ∀ symbol, (f symbol).name = symbol.name)
    (found : table.find? name = some symbol) :
    (table.change name f).find? name = some (f symbol) := by
  rw [find?_change keeps, found, Option.map_some, if_pos (name_of_find? found)]

/-- A change is not seen under another name. -/
theorem find?_change_ne {f : Symbol → Symbol} (keeps : ∀ symbol, (f symbol).name = symbol.name)
    {other : String} (different : other ≠ name) :
    (table.change name f).find? other = table.find? other := by
  rw [find?_change keeps]
  cases found : table.find? other with
  | none => rfl
  | some symbol => rw [Option.map_some, if_neg (by rwa [name_of_find? found])]

theorem find?_assign_self (value : Value) (found : table.find? name = some symbol) :
    (table.assign name value).find? name = some (symbol.assign value) :=
  find?_change_self (Symbol.assign_name value) found

theorem find?_assign_ne (value : Value) {other : String} (different : other ≠ name) :
    (table.assign name value).find? other = table.find? other :=
  find?_change_ne (Symbol.assign_name value) different

theorem find?_update_self (value : Value) (found : table.find? name = some symbol) :
    (table.update name value).find? name = some (symbol.update value) :=
  find?_change_self (Symbol.update_name value) found

theorem find?_update_ne (value : Value) {other : String} (different : other ≠ name) :
    (table.update name value).find? other = table.find? other :=
  find?_change_ne (Symbol.update_name value) different

/-- Two changes of one variable are one. -/
theorem change_change {f g : Symbol → Symbol} (keeps : ∀ symbol, (f symbol).name = symbol.name)
    (table : Table) (name : String) :
    (table.change name f).change name g = table.change name fun symbol => g (f symbol) := by
  obtain ⟨symbols⟩ := table
  simp only [change, List.map_map]
  congr 1
  apply List.map_congr_left
  intro symbol _
  by_cases same : symbol.name = name <;> simp [same, keeps]

/-- What is assigned before an update does not matter. -/
theorem update_assign (table : Table) (name : String) (first second : Value) :
    (table.assign name first).update name second = table.assign name second :=
  change_change (Symbol.assign_name first) table name

/-- A declaration puts one variable behind the others. -/
theorem symbols_declare {larger : Table} {type : ValueType} {scope : Scope}
    (declared : table.declare? name type scope = some larger) :
    larger.symbols = table.symbols ++ [.declared name type scope] := by
  unfold declare? at declared
  split at declared
  · cases declared
  · obtain rfl := Option.some.inj declared
    rfl

/-- A declaration leaves the variables that are there as they are. -/
theorem find?_declare {larger : Table} {type : ValueType} {scope : Scope} {other : String}
    (declared : table.declare? other type scope = some larger)
    (found : table.find? name = some symbol) : larger.find? name = some symbol := by
  unfold declare? at declared
  split at declared
  · cases declared
  · obtain rfl := Option.some.inj declared
    simp only [find?] at found ⊢
    rw [List.find?_append, found, Option.some_or]

theorem resolve_eq_visible_iff {site : Scope} {value : Value} :
    table.resolve name site = .visible value ↔
      ∃ symbol, table.find? name = some symbol ∧ symbol.scope.visibleFrom site = true ∧
        symbol.value = value := by
  unfold resolve
  split
  · simp_all
  · rename_i symbol found
    by_cases reached : symbol.scope.visibleFrom site <;> simp [found, reached]

end Table

end ScriptCheck
