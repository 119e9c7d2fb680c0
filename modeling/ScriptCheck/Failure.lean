/-! # Why a script is not compiled

Problems in a script are diagnostics; a failure is what ends the work on it.
-/

namespace ScriptCheck

/-- The causes that end the work on a script. -/
inductive Failure where
  /-- A name is registered for a second function. -/
  | duplicateNative (name : String)
  /-- The script has diagnostics. -/
  | rejected (count : Nat)
  /-- A file could not be read or written. -/
  | io (cause : String)
deriving DecidableEq, Repr

def Failure.message : Failure → String
  | duplicateNative name => s!"native function '{name}' is already registered"
  | rejected count => s!"{count} error(s) found"
  | io cause => s!"IO error: {cause}"

end ScriptCheck
