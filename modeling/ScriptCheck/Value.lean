import ScriptCheck.Decimal.Text
import ScriptCheck.Decimal.Reading

/-! # Values

A script computes with 64-bit integers that wrap around, doubles and strings. A variable keeps the
type it was declared with, so two values combine only when their types agree.
-/

namespace ScriptCheck

/-- The types that a script can name. -/
inductive ValueType where
  | int
  | float
  | string
deriving DecidableEq, Repr

def ValueType.name : ValueType → String
  | .int => "int"
  | .float => "float"
  | .string => "string"

/-- A value of one of the three types. -/
inductive Value where
  | int (n : Int64)
  | float (x : Float)
  | string (s : String)
deriving DecidableEq, Repr

namespace Value

def largestInt : Nat := 0x7fffffffffffffff

def type : Value → ValueType
  | int _ => .int
  | float _ => .float
  | string _ => .string

/-- The value of a variable that has only been declared. -/
def zero : ValueType → Value
  | .int => int 0
  | .float => float 0.0
  | .string => string ""

@[simp] theorem type_zero (t : ValueType) : (zero t).type = t := by
  cases t <;> rfl

/-- The text of a value: a decimal integer, the fewest digits that read back, or the string as it
is. -/
def text : Value → String
  | int n => toString n.toInt
  | float x => Decimal.shortestText x
  | string s => s

end Value

inductive Operator where
  | plus
  | minus
deriving DecidableEq, Repr

/-- The result of an operator on two values of one type. Strings can be joined and not
subtracted. -/
def Operator.apply : Operator → Value → Value → Option Value
  | .plus, .int a, .int b => some (.int (a + b))
  | .minus, .int a, .int b => some (.int (a - b))
  | .plus, .float a, .float b => some (.float (a + b))
  | .minus, .float a, .float b => some (.float (a - b))
  | .plus, .string a, .string b => some (.string (a ++ b))
  | _, _, _ => none

/-- A result has the type of both operands. -/
theorem Operator.type_apply {o : Operator} {a b c : Value} (h : o.apply a b = some c) :
    a.type = c.type ∧ b.type = c.type := by
  cases o <;> cases a <;> cases b <;> simp [Operator.apply] at h <;> subst h <;> exact ⟨rfl, rfl⟩

end ScriptCheck
