/-! # Command-line arguments

One script is named; flags may stand before and after it. Arguments are read from left to right,
and the first that is wrong, or that asks for the version or for help, decides. After `--` every
argument names a script.
-/

namespace ScriptCheck.CommandLine

/-- The flags that can be set, each at most once. -/
inductive Flag where
  | verbose
  | trace
  | dumpTokens
  | dumpSymbols
  | dumpOps
deriving DecidableEq, Repr

def Flag.word : Flag → String
  | verbose => "verbose"
  | trace => "trace"
  | dumpTokens => "dump-tokens"
  | dumpSymbols => "dump-symbols"
  | dumpOps => "dump-ops"

/-- What an argument can switch on. -/
inductive Switch where
  | flag (flag : Flag)
  | help
  | version
deriving DecidableEq, Repr

def Flag.all : List Flag := [.verbose, .trace, .dumpTokens, .dumpSymbols, .dumpOps]

def Switch.ofWord? (word : String) : Option Switch :=
  match word with
  | "help" => some .help
  | "version" => some .version
  | word => (Flag.all.find? (·.word == word)).map .flag

def Switch.ofLetter? (letter : Char) : Option Switch :=
  match letter with
  | 'v' => some (.flag .verbose)
  | 'h' => some .help
  | 'V' => some .version
  | _ => none

inductive UsageError where
  /-- No switch of that name exists. -/
  | unknownSwitch (argument : String)
  /-- A flag is given twice. -/
  | repeatedFlag (flag : Flag)
  /-- A second script is named. -/
  | extraScript (argument : String)
  /-- The script has an empty name. -/
  | emptyScript
  /-- No script is named. -/
  | missingScript
deriving DecidableEq, Repr

def UsageError.message : UsageError → String
  | unknownSwitch argument => s!"unknown option '{argument}'"
  | repeatedFlag flag =>
    let word := flag.word
    s!"option '--{word}' is given twice"
  | extraScript argument => s!"unexpected argument '{argument}'"
  | emptyScript => "the name of the script is empty"
  | missingScript => "no script is named"

inductive Request where
  /-- Check the script of that name. -/
  | check (script : String) (flags : List Flag)
  | help
  | version
deriving DecidableEq, Repr

/-- The arguments read so far. -/
structure Reading where
  script : Option String := none
  flags : List Flag := []
deriving DecidableEq, Repr

namespace Reading

def name (reading : Reading) (argument : String) : Except UsageError Reading :=
  match reading.script with
  | some _ => .error (.extraScript argument)
  | none => .ok { reading with script := some argument }

def set (reading : Reading) (flag : Flag) : Except UsageError Reading :=
  if reading.flags.contains flag then .error (.repeatedFlag flag)
  else .ok { reading with flags := reading.flags ++ [flag] }

/-- An empty name is noticed when the next argument or the end of the arguments is reached. -/
def settled (reading : Reading) : Except UsageError Unit :=
  if reading.script = some "" then .error .emptyScript else .ok ()

def finish (reading : Reading) : Except UsageError Request := do
  reading.settled
  match reading.script with
  | some script => .ok (.check script reading.flags)
  | none => .error .missingScript

def names (reading : Reading) : List String → Except UsageError Request
  | [] => reading.finish
  | argument :: rest => do
    let reading ← reading.name argument
    names reading rest

/-- Throws the switches of a word, or of the letters in a cluster; the first request among them
ends the reading. -/
def throwSwitches (reading : Reading) (argument : String) :
    List (Option Switch) → Except UsageError (Reading ⊕ Request)
  | [] => .ok (.inl reading)
  | none :: _ => .error (.unknownSwitch argument)
  | some switch :: rest => do
    reading.settled
    match switch with
    | .help => .ok (.inr .help)
    | .version => .ok (.inr .version)
    | .flag flag =>
      let reading ← reading.set flag
      throwSwitches reading argument rest

/-- The switches that an argument stands for, unless it names a script. A hyphen alone names one. -/
def switches? (argument : String) : Option (List (Option Switch)) :=
  match argument.toList with
  | '-' :: '-' :: word => some [Switch.ofWord? (String.ofList word)]
  | '-' :: letter :: letters => some ((letter :: letters).map Switch.ofLetter?)
  | _ => none

/-- Reads the arguments from left to right. -/
def arguments (reading : Reading) : List String → Except UsageError Request
  | [] => reading.finish
  | argument :: rest =>
    if argument = "--" then reading.names rest
    else match switches? argument with
      | none => do
        let reading ← reading.name argument
        arguments reading rest
      | some switches => do
        match ← reading.throwSwitches argument switches with
        | .inl reading => arguments reading rest
        | .inr request => .ok request

end Reading

def readArguments (arguments : List String) : Except UsageError Request :=
  Reading.arguments {} arguments

end ScriptCheck.CommandLine
