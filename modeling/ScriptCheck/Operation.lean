import ScriptCheck.Value
import ScriptCheck.Text.Quoted

/-! # Operations

A function of the host can hand work to a later stage. Each such operation is recorded with its
arguments, in the order of the calls.
-/

namespace ScriptCheck

/-- The operations that later stages know. -/
inductive OperationId where
  | messageBox
deriving DecidableEq, Repr

def OperationId.name : OperationId → String
  | messageBox => "messageBox"

structure Operation where
  id : OperationId
  args : List Value
deriving DecidableEq, Repr

/-- An argument as it is listed: strings are quoted. -/
def Value.listed : Value → String
  | .string s => Text.quoted s
  | value => value.text

def Operation.text (operation : Operation) : String :=
  let name := operation.id.name
  let args := ", ".intercalate (operation.args.map Value.listed)
  s!"{name}({args})"

end ScriptCheck
