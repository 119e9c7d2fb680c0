import ScriptCheck.Symbol

/-! # The table of variables

Names are unique in a script whatever block they are declared in, so the table is flat and keeps
the variables in the order of their declarations. Looking a name up from a place tells apart a name
that was never declared, one that is declared on another level, and one that can be used.
-/

namespace ScriptCheck

/-- What a name means at a place. -/
inductive Resolution where
  | unknown
  | hidden
  | visible (value : Value)
deriving DecidableEq, Repr

/-- The variables declared so far, the oldest first. -/
structure Table where
  symbols : List Symbol := []
deriving DecidableEq, Repr

namespace Table

def empty : Table := {}

def find? (table : Table) (name : String) : Option Symbol :=
  table.symbols.find? (·.name == name)

def has (table : Table) (name : String) : Bool := (table.find? name).isSome

def size (table : Table) : Nat := table.symbols.length

/-- Adds a variable; a name that is declared already is refused. -/
def declare? (table : Table) (name : String) (type : ValueType) (scope : Scope) : Option Table :=
  if table.has name then none
  else some { symbols := table.symbols ++ [.declared name type scope] }

/-- Changes the variable of a name and no other. -/
def change (table : Table) (name : String) (f : Symbol → Symbol) : Table :=
  { symbols := table.symbols.map fun symbol => if symbol.name = name then f symbol else symbol }

def assign (table : Table) (name : String) (value : Value) : Table :=
  table.change name (.assign value)

/-- Replaces the value of the variable of a name. -/
def update (table : Table) (name : String) (value : Value) : Table :=
  table.change name (.update value)

/-- What a name means at a coordinate. -/
def resolve (table : Table) (name : String) (site : Scope) : Resolution :=
  match table.find? name with
  | none => .unknown
  | some symbol => if symbol.scope.visibleFrom site then .visible symbol.value else .hidden

/-- A name is known exactly when a variable of the table bears it. -/
theorem has_iff (table : Table) (name : String) :
    table.has name = true ↔ ∃ symbol ∈ table.symbols, symbol.name = name := by
  simp [has, find?, List.find?_isSome]

end Table

end ScriptCheck
