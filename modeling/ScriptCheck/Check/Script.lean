import ScriptCheck.Token
import ScriptCheck.Native.Registry

/-! # The tokens under check

A check looks at tokens by their position and at a few neighbours. A name directly before an opening
parenthesis is the callee of a call.
-/

namespace ScriptCheck

/-- A token list and the functions that it may call. -/
structure Script where
  tokens : List Token
  natives : Registry

namespace Script

def size (script : Script) : Nat := script.tokens.length

/-- The token `back` positions before `i`. -/
def before? (script : Script) (i back : Nat) : Option Token :=
  if back ≤ i then script.tokens[i - back]? else none

/-- Whether a name stands directly before an opening parenthesis. -/
def opensCall (t : Token) (next : Option Token) : Bool :=
  t.isName && (next.any fun u => u.kind == .openParen)

def isCallee (script : Script) (i : Nat) : Bool :=
  script.tokens[i]?.any fun t => opensCall t script.tokens[i + 1]?

/-- The first position from `i` on, at the front of `rest`, whose token ends a statement. -/
def statementEnd (i : Nat) (rest : List Token) : Nat :=
  i + (rest.takeWhile fun t => !t.kind.endsStatement).length

end Script

end ScriptCheck
