/-! # Sets of code points

Properties of characters are tables of closed intervals of code points.
-/

namespace ScriptCheck.Text

/-- A set of code points, as a list of closed intervals. -/
abbrev CodePoints := List (Nat × Nat)

/-- Whether the code point of `c` lies in one of the intervals. -/
def CodePoints.has (table : CodePoints) (c : Char) : Bool :=
  table.any fun interval => interval.1 ≤ c.toNat && c.toNat ≤ interval.2

end ScriptCheck.Text
