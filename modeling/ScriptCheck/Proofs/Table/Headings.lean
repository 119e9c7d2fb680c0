import ScriptCheck.Proofs.Table.Changes

/-! # What a variable is declared as

Under its name a variable keeps a type and a place for good: an assignment puts a value of the same type
there, and a declaration puts a new variable behind those that are there. So the headings of a table only
grow at the end. This rests on names being unique, which declarations see to (`Table.distinct_declare`).
-/

namespace ScriptCheck

/-- What a variable is declared as. -/
structure Heading where
  name : String
  type : ValueType
  scope : Scope
deriving DecidableEq, Repr

def Symbol.heading (symbol : Symbol) : Heading := ⟨symbol.name, symbol.type, symbol.scope⟩

@[simp] theorem Symbol.heading_declared (name : String) (type : ValueType) (scope : Scope) :
    (Symbol.declared name type scope).heading = ⟨name, type, scope⟩ := by
  simp [Symbol.heading, Symbol.declared, Symbol.type]

namespace Table

variable {table larger : Table} {name : String} {symbol : Symbol} {value : Value}

/-- What the variables were declared as, the oldest first. -/
def headings (table : Table) : List Heading := table.symbols.map Symbol.heading

/-- No two variables bear one name. -/
def Distinct (table : Table) : Prop := (table.headings.map (·.name)).Nodup

theorem mem_headings_of_find? (found : table.find? name = some symbol) :
    symbol.heading ∈ table.headings :=
  List.mem_map_of_mem (List.mem_of_find?_eq_some found)

/-- Where names are unique, a variable is found under its name. -/
theorem Distinct.find? (distinct : table.Distinct) (member : symbol ∈ table.symbols) :
    table.find? symbol.name = some symbol := by
  obtain ⟨symbols⟩ := table
  simp only [Distinct, headings, Table.find?] at distinct member ⊢
  induction symbols with
  | nil => cases member
  | cons first rest ih =>
    simp only [List.map_cons, List.nodup_cons] at distinct
    rcases List.mem_cons.mp member with rfl | later
    · simp
    · have different : first.name ≠ symbol.name := by
        intro same
        apply distinct.1
        rw [show first.heading.name = symbol.heading.name from same]
        exact List.mem_map_of_mem (List.mem_map_of_mem later)
      rw [List.find?_cons_of_neg (by simpa using different)]
      exact ih distinct.2 later

/-- A change that keeps what the variable was declared as keeps all headings. -/
theorem headings_change {f : Symbol → Symbol} (distinct : table.Distinct)
    (found : table.find? name = some symbol) (keeps : (f symbol).heading = symbol.heading) :
    (table.change name f).headings = table.headings := by
  simp only [headings, change, List.map_map]
  apply List.map_congr_left
  intro other member
  by_cases same : other.name = name
  · obtain rfl : symbol = other :=
      Option.some.inj (found.symm.trans (same ▸ distinct.find? member))
    simp [same, keeps]
  · simp [same]

theorem headings_assign (distinct : table.Distinct) (found : table.find? name = some symbol)
    (type : symbol.type = value.type) : (table.assign name value).headings = table.headings := by
  apply headings_change distinct found
  simp [Symbol.heading, Symbol.assign, Symbol.type, ← type]

theorem headings_update (distinct : table.Distinct) (found : table.find? name = some symbol)
    (type : symbol.type = value.type) : (table.update name value).headings = table.headings := by
  apply headings_change distinct found
  simp [Symbol.heading, Symbol.update, Symbol.type, ← type]

/-- Where names are unique, a change changes one variable at most. -/
theorem exists_symbols_change {f : Symbol → Symbol} (distinct : table.Distinct) (name : String) :
    ∃ k : Nat, ∀ (j : Nat) (symbol : Symbol), j ≠ k → table.symbols[j]? = some symbol →
      (table.change name f).symbols[j]? = some symbol := by
  have others : ∀ (j : Nat) (symbol : Symbol), symbol.name ≠ name →
      table.symbols[j]? = some symbol → (table.change name f).symbols[j]? = some symbol := by
    intro j symbol different there
    rw [change, List.getElem?_map, there, Option.map_some, if_neg different]
  by_cases present : ∃ (k : Nat) (changed : Symbol), table.symbols[k]? = some changed ∧ changed.name = name
  · obtain ⟨k, changed, atChanged, called⟩ := present
    refine ⟨k, fun j symbol apart there => others j symbol ?_ there⟩
    intro same
    have names : ∀ {n : Nat} {s : Symbol}, table.symbols[n]? = some s →
        (table.headings.map (·.name))[n]? = some s.name := by
      intro n s found
      simp [headings, found, Symbol.heading]
    apply apart
    refine (List.getElem?_inj (List.getElem?_eq_some_iff.mp (names there)).1 distinct).mp ?_
    rw [names there, names atChanged, same, called]
  · refine ⟨0, fun j symbol _ there => others j symbol ?_ there⟩
    intro same
    exact present ⟨j, symbol, there, same⟩

/-- A declaration puts one heading behind the others. -/
theorem headings_declare {type : ValueType} {scope : Scope}
    (declared : table.declare? name type scope = some larger) :
    larger.headings = table.headings ++ [⟨name, type, scope⟩] := by
  unfold declare? at declared
  split at declared
  · cases declared
  · obtain rfl := Option.some.inj declared
    simp [headings]

theorem distinct_declare {type : ValueType} {scope : Scope}
    (declared : table.declare? name type scope = some larger) (distinct : table.Distinct) :
    larger.Distinct := by
  have fresh : ¬ table.has name = true := by
    unfold declare? at declared
    split at declared
    · cases declared
    · assumption
  rw [Distinct, headings_declare declared, List.map_append, List.nodup_append]
  refine ⟨distinct, by simp, ?_⟩
  rintro first member second isNew rfl
  obtain rfl : first = name := by simpa using isNew
  apply fresh
  obtain ⟨heading, isHeading, same⟩ := List.mem_map.mp member
  obtain ⟨symbol, isSymbol, rfl⟩ := List.mem_map.mp isHeading
  exact (table.has_iff _).mpr ⟨symbol, isSymbol, same⟩

/-- Where names are unique, a variable is found under the name of its heading. -/
theorem Distinct.find?_of_mem_headings {heading : Heading} (distinct : table.Distinct)
    (member : heading ∈ table.headings) :
    ∃ symbol, table.find? heading.name = some symbol ∧ symbol.heading = heading := by
  obtain ⟨symbol, isSymbol, rfl⟩ := List.mem_map.mp member
  exact ⟨symbol, distinct.find? isSymbol, rfl⟩

end Table

end ScriptCheck
