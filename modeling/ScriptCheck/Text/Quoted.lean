import ScriptCheck.Text.Invisible

/-! # Quoted text

A string between double quotes on one line. A quote and a backslash are written after a backslash,
line breaks, tabs and NUL by a letter or digit after one, and every other character that cannot be
shown by its code point in braces, in lower-case hexadecimal without leading zeros.
-/

namespace ScriptCheck.Text

def codePoint (c : Char) : List Char :=
  ['\\', 'u', '{'] ++ Nat.toDigits 16 c.toNat ++ ['}']

/-- One character of a string as it stands between the quotes. -/
def quotedChar (c : Char) : List Char :=
  match c with
  | '"' => ['\\', '"']
  | '\\' => ['\\', '\\']
  | '\n' => ['\\', 'n']
  | '\r' => ['\\', 'r']
  | '\t' => ['\\', 't']
  | '\x00' => ['\\', '0']
  | c => if isInvisible c then codePoint c else [c]

/-- The characters of a string between double quotes. -/
def quotedChars (cs : List Char) : List Char :=
  '"' :: cs.flatMap quotedChar ++ ['"']

def quoted (s : String) : String :=
  String.ofList (quotedChars s.toList)

end ScriptCheck.Text
