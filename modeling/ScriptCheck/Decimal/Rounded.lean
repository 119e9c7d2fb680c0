import ScriptCheck.Decimal.Binary

/-! # A fixed number of decimal places

The exact binary value, rounded to the nearest multiple of a power of ten; a value halfway between
two multiples goes to the even one.
-/

namespace ScriptCheck.Decimal

/-- The integer nearest to `numerator / denominator`, the even one of two that are equally near. -/
def roundDiv (numerator denominator : Nat) : Nat :=
  let down := numerator / denominator
  match compare (2 * (numerator % denominator)) denominator with
  | .lt => down
  | .gt => down + 1
  | .eq => down + down % 2

/-- `b` in units of `10 ^ -places`, rounded. -/
def Binary.rounded (places : Nat) (b : Binary) : Nat :=
  roundDiv (b.significand * twoPow b.exponent.toNat * tenPow places) (twoPow (-b.exponent).toNat)

end ScriptCheck.Decimal
