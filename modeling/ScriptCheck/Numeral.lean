import ScriptCheck.Value

/-! # Numerals

A numeral consists of ASCII digits, at least one of them, and at most one point. Without a point it
is an integer and has to fit 64 bits; with one it is the nearest double.
-/

namespace ScriptCheck.Numeral

/-- Whether a numeral can hold the character. -/
def isPart (c : Char) : Bool := c.isDigit || c == '.'

def digitsOf (cs : List Char) : List Char := cs.filter Char.isDigit

/-- The value that the characters of a numeral stand for. -/
def valueOfChars (cs : List Char) : Option Value :=
  if !cs.all isPart || (digitsOf cs).isEmpty then none
  else match cs.count '.' with
    | 0 =>
      let n := Decimal.ofDigits cs
      if n ≤ Value.largestInt then some (.int (Int64.ofNat n)) else none
    | 1 =>
      let places := (cs.dropWhile (· != '.')).length - 1
      some (.float (Decimal.nearest (Decimal.ofDigits (digitsOf cs)) (-places)))
    | _ => none

def value? (text : String) : Option Value := valueOfChars text.toList

end ScriptCheck.Numeral
