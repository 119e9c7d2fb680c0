/-! # Reading decimal text

A decimal number is read exactly and then rounded once, to the nearest double.
-/

namespace ScriptCheck.Decimal

/-- The number that a run of digits stands for. -/
def ofDigits (cs : List Char) : Nat := Nat.ofDigitChars 10 cs 0

/-- The double nearest to `digits * 10 ^ exponent`. -/
def nearest (digits : Nat) (exponent : Int) : Float :=
  match exponent with
  | .ofNat n => Float.ofScientific digits false n
  | .negSucc n => Float.ofScientific digits true (n + 1)

/-- Powers of ten beyond this one overflow or vanish whatever the digits before them. -/
def exponentBound (length : Nat) : Int := length + 400

/-- An exponent with an optional sign; anything beyond the bound counts as the bound. -/
def readExponent (bound : Int) (cs : List Char) : Option Int :=
  let (sign, ds) : Int × List Char := match cs with
    | '-' :: ds => (-1, ds)
    | '+' :: ds => (1, ds)
    | ds => (1, ds)
  if ds.isEmpty || !ds.all Char.isDigit then none
  else some (sign * min bound (ofDigits ds))

/-- Digits with an optional point and an optional power of ten. -/
def readMagnitude (cs : List Char) : Option Float :=
  let whole := cs.takeWhile Char.isDigit
  let afterWhole := cs.dropWhile Char.isDigit
  let (fraction, rest) := match afterWhole with
    | '.' :: more => (more.takeWhile Char.isDigit, more.dropWhile Char.isDigit)
    | more => ([], more)
  if whole.isEmpty && fraction.isEmpty then none
  else
    let value (power : Int) := nearest (ofDigits (whole ++ fraction)) (power - fraction.length)
    match rest with
    | [] => some (value 0)
    | 'e' :: power | 'E' :: power => (readExponent (exponentBound cs.length) power).map value
    | _ => none

/-- The double that a decimal text stands for: an optional sign, then a decimal number, an infinity
or not a number. -/
def readFloat (text : String) : Option Float :=
  let (negative, cs) := match text.toList with
    | '-' :: cs => (true, cs)
    | '+' :: cs => (false, cs)
    | cs => (false, cs)
  let size := match (String.ofList (cs.map Char.toLower)) with
    | "inf" | "infinity" => some (1.0 / 0.0)
    | "nan" => some (0.0 / 0.0)
    | _ => readMagnitude cs
  size.map fun x => if negative then -x else x

end ScriptCheck.Decimal
