/-! # Floating-point numbers as exact fractions

A double is a sign and a significand times a power of two, an infinity, or not a number. The bit
pattern decides which.
-/

namespace ScriptCheck.Decimal

def twoPow (n : Nat) : Nat := Nat.pow 2 n

def tenPow (n : Nat) : Nat := Nat.pow 10 n

/-- The magnitude `significand * 2 ^ exponent`. -/
structure Binary where
  significand : Nat
  exponent : Int
deriving DecidableEq, Repr

/-- What a bit pattern stands for. -/
inductive Magnitude where
  | finite (size : Binary)
  | infinite
  | notANumber
deriving DecidableEq, Repr

/-- Number of explicit significand bits of a double. -/
def fractionBits : Nat := 52

def signBit (x : Float) : Bool := x.toBits.toNat / twoPow 63 == 1

/-- The magnitude of a double, without its sign. -/
def magnitude (x : Float) : Magnitude :=
  let bits := x.toBits.toNat
  let fraction := bits % twoPow fractionBits
  let biased := bits / twoPow fractionBits % 2048
  if biased = 2047 then if fraction = 0 then .infinite else .notANumber
  else if biased = 0 then .finite ⟨fraction, -1074⟩
  else .finite ⟨twoPow fractionBits + fraction, (biased : Int) - 1075⟩

/-- Whether the next smaller double lies at half the distance of the next larger one. -/
def Binary.startsOctave (b : Binary) : Bool :=
  b.significand == twoPow fractionBits && b.exponent != -1074

end ScriptCheck.Decimal
