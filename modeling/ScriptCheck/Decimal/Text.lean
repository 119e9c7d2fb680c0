import ScriptCheck.Decimal.Shortest
import ScriptCheck.Decimal.Rounded

/-! # Decimal text of floating-point numbers

Two texts of a double: the fewest digits that read back, and a fixed number of places.
-/

namespace ScriptCheck.Decimal

/-- When a number is written without a power of ten: from `10 ^ low` up to, not including,
`10 ^ high`. -/
structure Positional where
  low : Int
  high : Int

/-- Numbers from 0.0001 up to 10¹⁶ are written without a power of ten. -/
def positional : Positional := ⟨-4, 16⟩

def digitChars (n : Nat) : List Char := Nat.toDigits 10 n

def zeros (n : Nat) : List Char := List.replicate n '0'

/-- A positive number without a power of ten, with at least one digit on either side of the
point. -/
def Scientific.plain (d : Scientific) : List Char :=
  let ds := digitChars d.digits
  let whole := ds.length + d.exponent
  if 0 ≤ d.exponent then ds ++ zeros d.exponent.toNat ++ ['.', '0']
  else if 0 < whole then ds.take whole.toNat ++ '.' :: ds.drop whole.toNat
  else '0' :: '.' :: zeros (-whole).toNat ++ ds

/-- A positive number with one digit before the point, which is left out when no digit follows,
and a power of ten. -/
def Scientific.powered (d : Scientific) : List Char :=
  let ds := digitChars d.digits
  let power := ds.length + d.exponent - 1
  ds.take 1 ++ (if ds.length = 1 then [] else '.' :: ds.drop 1) ++
    'e' :: (toString power).toList

/-- A positive number, with a power of ten outside the positional range. -/
def Scientific.chars (d : Scientific) : List Char :=
  let power := (digitChars d.digits).length + d.exponent - 1
  if positional.low ≤ power && power < positional.high then d.plain else d.powered

/-- The text of a magnitude in the fewest digits that read back. -/
def shortestChars : Magnitude → List Char
  | .notANumber => "NaN".toList
  | .infinite => "inf".toList
  | .finite b => if b.significand = 0 then "0.0".toList else b.shortest.chars

/-- The text of a magnitude with two places. -/
def hundredthsChars : Magnitude → List Char
  | .notANumber => "NaN".toList
  | .infinite => "inf".toList
  | .finite b =>
    let n := b.rounded 2
    digitChars (n / 100) ++ ['.'] ++ digitChars (n / 10 % 10) ++ digitChars (n % 10)

/-- A minus sign in front of a negative number; a value that is not a number has no sign. -/
def signed (x : Float) (chars : Magnitude → List Char) : String :=
  let size := magnitude x
  String.ofList (if signBit x && size != .notANumber then '-' :: chars size else chars size)

def shortestText (x : Float) : String := signed x shortestChars

def hundredthsText (x : Float) : String := signed x hundredthsChars

end ScriptCheck.Decimal
