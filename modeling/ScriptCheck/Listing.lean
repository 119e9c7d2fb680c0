import ScriptCheck.Token
import ScriptCheck.Text.Columns

/-! # Token listings

One line for each token: the line, the coordinate, the kind and the text.
-/

namespace ScriptCheck

def Token.listing (t : Token) : String :=
  let line := String.ofList (Text.padLeft 4 (Nat.toDigits 10 t.line))
  let kind := String.ofList (Text.padRight 14 t.kind.label.toList)
  s!"{line} [{t.scope.depth}, {t.scope.region}] {kind} {t.text}\n"

def tokenListing (tokens : List Token) : String :=
  String.join (tokens.map Token.listing)

end ScriptCheck
