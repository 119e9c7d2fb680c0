import ScriptCheck.Native.Basic

/-! # The registry of native functions

The first function registered under a name keeps it. Calls only read the registry.
-/

namespace ScriptCheck

/-- The registered functions, the oldest first. -/
structure Registry where
  natives : List Native := []

namespace Registry

def empty : Registry := {}

def find? (registry : Registry) (name : String) : Option Native :=
  registry.natives.find? (·.name == name)

def has (registry : Registry) (name : String) : Bool := (registry.find? name).isSome

def size (registry : Registry) : Nat := registry.natives.length

/-- Adds a function; a name that is registered already is refused. -/
def register? (registry : Registry) (native : Native) : Option Registry :=
  if registry.has native.name then none
  else some { natives := registry.natives ++ [native] }

/-- Adds functions in order up to the first whose name is taken. Returns that name beside the
registry, which keeps the functions before it. -/
def registerAll (registry : Registry) : List Native → Registry × Option String
  | [] => (registry, none)
  | native :: rest =>
    match registry.register? native with
    | none => (registry, some native.name)
    | some larger => larger.registerAll rest

/-- Checks the arguments of a call and runs the function. -/
def call (registry : Registry) (name : String) (args : List Value) : Except CallError Reply :=
  match registry.find? name with
  | none => .error (.unknown name)
  | some native => native.call args

end Registry

end ScriptCheck
