import ScriptCheck.Decimal.Binary

/-! # The fewest decimal digits that read back

A decimal reads back as a double when it lies in the interval of numbers that round to it. The
search goes from coarse powers of ten to fine ones and tries the two multiples next to the value;
the first power with a multiple in the interval has the fewest digits. Of two such multiples the
nearer is taken, and the larger one when the value lies halfway between them.
-/

namespace ScriptCheck.Decimal

structure Scientific where
  digits : Nat
  exponent : Int
deriving DecidableEq, Repr

/-- Compares `a * 10 ^ p` with `b * 2 ^ q`. -/
def compareExact (a : Nat) (p : Int) (b : Nat) (q : Int) : Ordering :=
  compare (a * tenPow p.toNat * twoPow (-q).toNat) (b * twoPow q.toNat * tenPow (-p).toNat)

/-- Whether a decimal rounds to `b`: half of the gap to either neighbour, ends included when the
significand is even. -/
def Binary.roundsFrom (b : Binary) (d : Scientific) : Bool :=
  let lower := 4 * b.significand - if b.startsOctave then 1 else 2
  let upper := 4 * b.significand + 2
  let even := b.significand % 2 == 0
  let below := compareExact d.digits d.exponent lower (b.exponent - 2)
  let above := compareExact d.digits d.exponent upper (b.exponent - 2)
  (below == .gt || (even && below == .eq)) && (above == .lt || (even && above == .eq))

/-- The largest multiple of `10 ^ p` that is at most `b`, as a factor. -/
def Binary.floorAt (b : Binary) (p : Int) : Nat :=
  b.significand * twoPow b.exponent.toNat * tenPow (-p).toNat /
    (twoPow (-b.exponent).toNat * tenPow p.toNat)

/-- The multiple of `10 ^ p` that rounds to `b` and lies nearest to it, if there is one. -/
def Binary.onGrid (b : Binary) (p : Int) : Option Scientific :=
  let low : Scientific := ⟨b.floorAt p, p⟩
  let high : Scientific := ⟨b.floorAt p + 1, p⟩
  if b.roundsFrom low then
    if b.roundsFrom high &&
        compareExact (low.digits + high.digits) p (2 * b.significand) b.exponent != .gt
    then some high
    else some low
  else if b.roundsFrom high then some high
  else none

/-- A power of ten above every power with a multiple that rounds to `b`. -/
def Binary.coarsest (b : Binary) : Int :=
  Int.fdiv ((Nat.log2 b.significand + b.exponent + 1) * 30103) 100000 + 2

/-- The fewest digits that read back as the positive number `b`. Seventeen always do, so the search
ends within the powers that are tried. -/
def Binary.shortest (b : Binary) : Scientific :=
  ((List.range 22).findSome? fun k : Nat => b.onGrid (b.coarsest - k)).getD ⟨0, 0⟩

end ScriptCheck.Decimal
