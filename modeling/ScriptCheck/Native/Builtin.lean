import ScriptCheck.Native.Registry

/-! # The built-in functions

Six functions that every script can call. Strings are measured and cut in characters; a negative
start or length counts as zero, and a cut stops at the end of the string.
-/

namespace ScriptCheck.Builtin

/-- A signed number as a count. -/
def count (n : Int64) : Nat := n.toInt.toNat

/-- The contiguous characters of `s` from `start`, at most `length` of them. -/
def substringOf (s : String) (start length : Int64) : String :=
  String.ofList ((s.toList.drop (count start)).take (count length))

def sizeOf (s : String) : Int64 :=
  Int64.ofNat (min s.length Value.largestInt)

def squareroot : Native where
  name := "squareroot"
  parameters := [.float]
  body
    | [.float x] => ⟨some (.float x.sqrt), []⟩
    | _ => ⟨none, []⟩

/-- `power(float, float)`: the base and the exponent. -/
def power : Native where
  name := "power"
  parameters := [.float, .float]
  body
    | [.float base, .float exponent] => ⟨some (.float (base.pow exponent)), []⟩
    | _ => ⟨none, []⟩

/-- `messageBox(string, string)`, handed on as an operation. -/
def messageBox : Native where
  name := "messageBox"
  parameters := [.string, .string]
  body args := ⟨none, [⟨.messageBox, args⟩]⟩

/-- `substring(string, int, int)`: the string, the start and the length. -/
def substring : Native where
  name := "substring"
  parameters := [.string, .int, .int]
  body
    | [.string s, .int start, .int length] => ⟨some (.string (substringOf s start length)), []⟩
    | _ => ⟨none, []⟩

def size : Native where
  name := "size"
  parameters := [.string]
  body
    | [.string s] => ⟨some (.int (sizeOf s)), []⟩
    | _ => ⟨none, []⟩

/-- `toString(any)`: the text of the value. -/
def text : Native where
  name := "toString"
  parameters := [.any]
  body
    | [value] => ⟨some (.string value.text), []⟩
    | _ => ⟨none, []⟩

def all : List Native := [squareroot, power, messageBox, substring, size, text]

def registry : Registry := (Registry.empty.registerAll all).1

end ScriptCheck.Builtin
