import ScriptCheck.Token

/-! # Located messages

What a reader of a report sees of a problem: the line, the bytes of the token and a sentence.
-/

namespace ScriptCheck

/-- A message about a range of bytes of a source. -/
structure Diagnostic where
  line : Nat
  span : Span
  message : String
deriving DecidableEq, Repr

def Diagnostic.text (diagnostic : Diagnostic) : String :=
  s!"Line {diagnostic.line}: {diagnostic.message}"

end ScriptCheck
