import ScriptCheck.Operation

/-! # Functions of the host

A native function has a name, a signature and a body. A call is checked against the signature
first: the number of arguments, then their types from left to right. Only then is the body run,
once, on exactly the given arguments. It answers with a value or with nothing, and with the operations it
recorded.
-/

namespace ScriptCheck

/-- What a parameter accepts. -/
inductive Parameter where
  | int
  | float
  | string
  | any
deriving DecidableEq, Repr

namespace Parameter

def name : Parameter → String
  | int => "int"
  | float => "float"
  | string => "string"
  | any => "any"

/-- Whether an argument of the type may be passed. -/
def accepts : Parameter → ValueType → Bool
  | int, type => type == .int
  | float, type => type == .float
  | string, type => type == .string
  | any, _ => true

end Parameter

/-- Why a call was refused. Positions of parameters count from one. -/
inductive CallError where
  | unknown (function : String)
  | arity (function : String) (expected got : Nat)
  | type (function : String) (position : Nat) (expected : Parameter) (got : ValueType)
deriving DecidableEq, Repr

def CallError.message : CallError → String
  | unknown function => s!"Could not call '{function}', that function does not exist."
  | arity function expected got => s!"{function} expects {expected} parameter(s), got {got}."
  | type function position expected got =>
    let wanted := expected.name
    let given := got.name
    s!"Parameter {position} has a bad type (expected {wanted}, got {given}, " ++
      s!"in function call {function})"

/-- What a call gave back: a value, if the function has one, and the operations it recorded. -/
structure Reply where
  value : Option Value
  operations : List Operation := []
deriving DecidableEq, Repr

/-- A function of the host. -/
structure Native where
  name : String
  parameters : List Parameter
  body : List Value → Reply

namespace Native

/-- The leftmost argument that its parameter does not accept. Positions count from `position`. -/
def mismatch? (position : Nat) : List Parameter → List Value →
    Option (Nat × Parameter × ValueType)
  | parameter :: parameters, arg :: args =>
    if parameter.accepts arg.type then mismatch? (position + 1) parameters args
    else some (position, parameter, arg.type)
  | _, _ => none

/-- Checks arguments against the signature; the first problem wins. -/
def check (native : Native) (args : List Value) : Except CallError Unit :=
  if args.length ≠ native.parameters.length then
    .error (.arity native.name native.parameters.length args.length)
  else match mismatch? 1 native.parameters args with
    | some (position, expected, got) => .error (.type native.name position expected got)
    | none => .ok ()

/-- Runs the body on arguments that fit the signature. -/
def call (native : Native) (args : List Value) : Except CallError Reply :=
  match native.check args with
  | .error error => .error error
  | .ok _ => .ok (native.body args)

/-- The signature in a listing for developers. -/
def describe (native : Native) : String :=
  let name := Text.quoted native.name
  let parameter : Parameter → String
    | .int => "Int"
    | .float => "Float"
    | .string => "String"
    | .any => "Any"
  let parameters := ", ".intercalate (native.parameters.map parameter)
  s!"NativeDescriptor \x7b name: {name}, params: [{parameters}], .. \x7d"

end Native

end ScriptCheck
