import ScriptCheck.Value
import ScriptCheck.Scope

/-! # Variables

A variable keeps its name, its current value, the coordinate it was declared at, and whether
anything has been assigned to it. Its type is the type of its value.
-/

namespace ScriptCheck

/-- A declared variable. -/
structure Symbol where
  name : String
  value : Value
  scope : Scope
  initialized : Bool
deriving DecidableEq, Repr

namespace Symbol

/-- A variable that has been declared and not yet defined. -/
def declared (name : String) (type : ValueType) (scope : Scope) : Symbol :=
  { name, value := .zero type, scope, initialized := false }

def type (symbol : Symbol) : ValueType := symbol.value.type

/-- An assignment stores a value and counts as the definition. -/
def assign (value : Value) (symbol : Symbol) : Symbol :=
  { symbol with value, initialized := true }

/-- Arithmetic changes the value without counting as an assignment. -/
def update (value : Value) (symbol : Symbol) : Symbol :=
  { symbol with value }

/-- How the reports describe a variable: a float with two places, any other value in full. -/
def describe (symbol : Symbol) : String :=
  let name := symbol.name
  let place := symbol.scope.text
  if symbol.initialized then
    match symbol.value with
    | .float x =>
      let value := Decimal.hundredthsText x
      s!"Variable {name} (float) has value {value} ({place})"
    | value =>
      let type := value.type.name
      let text := value.text
      s!"Variable {name} ({type}) has value {text} ({place})"
  else s!"Variable {name} has been declared but not yet defined. ({place})"

end Symbol

end ScriptCheck
