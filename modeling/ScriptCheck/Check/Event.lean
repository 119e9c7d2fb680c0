import ScriptCheck.Check.Problem

/-! # The record of a check

A check is recorded as a list of events in the order in which they happen: declarations,
assignments, changes by an operator, calls and findings. Diagnostics, operations and the trace are
read off this one list.
-/

namespace ScriptCheck

/-- How the evaluation of a call ended. A failed call has been reported. -/
inductive Outcome where
  | failed
  | void
  | value (v : Value)
deriving DecidableEq, Repr

def Value.traced : Value → String
  | .int n => "Int(" ++ (Value.int n).text ++ ")"
  | .float x => "Float(" ++ (Value.float x).text ++ ")"
  | .string s => "String(" ++ Text.quoted s ++ ")"

def Outcome.text : Outcome → String
  | failed => "Failed"
  | void => "Void"
  | value v => "Value(" ++ v.traced ++ ")"

/-- A call that reached the registry: the positions of the function's name and of the closing
parenthesis, the arguments, and the reply unless the call was refused. -/
structure Invocation where
  callee : Site
  close : Nat
  args : List Value
  reply : Option Reply
deriving DecidableEq, Repr

def Invocation.outcome (call : Invocation) : Outcome :=
  match call.reply with
  | none => .failed
  | some reply => match reply.value with
    | none => .void
    | some v => .value v

/-- What can happen in a check. -/
inductive Event where
  /-- A variable was declared. -/
  | declared (site : Site) (type : ValueType)
  /-- A value was assigned at a token. -/
  | stored (site : Site) (target : String) (value : Value)
  /-- An operator changed a variable; the site is that of its operand. -/
  | folded (site : Site) (target operator : String) (result : Value)
  /-- A call reached the registry. -/
  | called (call : Invocation)
  /-- Something was found wrong. -/
  | reported (finding : Finding)
deriving DecidableEq, Repr

namespace Event

def finding? : Event → Option Finding
  | reported finding => some finding
  | _ => none

def invocation? : Event → Option Invocation
  | called call => some call
  | _ => none

def operations : Event → List Operation
  | called call => match call.reply with
    | some reply => reply.operations
    | none => []
  | _ => []

/-- The line of a trace for an event. Findings are not traced. -/
def trace? : Event → Option String
  | declared site type =>
    let type := type.name
    let place := site.token.scope.text
    some s!"declared {type} {site.token.text} at {place}"
  | stored site target value =>
    let text := value.text
    some s!"line {site.token.line}: {target} = {text}"
  | folded site target operator result =>
    let text := result.text
    some s!"line {site.token.line}: {target} {operator} {site.token.text} -> {text}"
  | called call =>
    let token := call.callee.token
    let outcome := call.outcome.text
    some s!"line {token.line}: {token.text}({call.args.length} args) -> {outcome}"
  | reported _ => none

end Event

end ScriptCheck
