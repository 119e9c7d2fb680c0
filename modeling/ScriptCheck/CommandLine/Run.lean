import ScriptCheck.CommandLine.Arguments
import ScriptCheck.Compile
import ScriptCheck.Log.Registration

/-! # Running the command

The command reads one script and checks it. The log and the recorded operations go to standard
output, diagnostics and listings to standard error. The exit status is 0 for a script without
diagnostics, 1 for any other script and for one that cannot be read, and 2 for arguments that are
refused.
-/

namespace ScriptCheck.CommandLine

inductive ReadError where
  | missing
  | directory
  | notDirectory
  | invalidText
  | other (cause : String)
deriving DecidableEq, Repr

def ReadError.message : ReadError → String
  | missing => "No such file or directory (os error 2)"
  | directory => "Is a directory (os error 21)"
  | notDirectory => "Not a directory (os error 20)"
  | invalidText => "stream did not contain valid UTF-8"
  | other cause => cause

structure Result where
  exit : UInt32
  stdout : String := ""
  stderr : String := ""
deriving DecidableEq, Repr

/-- The text of a script from its bytes. -/
def decode (bytes : ByteArray) : Except ReadError String :=
  match String.fromUTF8? bytes with
  | some text => .ok text
  | none => .error .invalidText

def logLevel (flags : List Flag) : Log.Level :=
  if flags.contains .trace then .trace
  else if flags.contains .verbose then .info
  else .warn

def compileOptions (flags : List Flag) : CompileOptions :=
  { dumpTokens := flags.contains .dumpTokens
    dumpSymbols := flags.contains .dumpSymbols
    verbose := flags.contains .verbose }

/-- The records of a log down to a level, one on a line. -/
def logText (least : Log.Level) (log : List Log.Record) : String :=
  String.join ((log.filter (·.shownAt least)).map fun record => record.line ++ "\n")

def operationListing (operations : List Operation) : String :=
  String.join (operations.map fun operation => operation.text ++ "\n")

/-- Checks a script that was read with the built-in functions. -/
def checkScript (flags : List Flag) (script : String) (source : String) : Result :=
  let available := Builtin.registry.size
  let compiled := compile Builtin.registry (compileOptions flags) ⟨script, source⟩
  let log := logText (logLevel flags) (Builtin.registrationLog ++
    [⟨.info, .command, s!"{available} native functions available"⟩] ++ compiled.log)
  match compiled.result with
  | .error _ => { exit := 1, stdout := log, stderr := compiled.written }
  | .ok report =>
    let operations := titled "Operations" (operationListing report.operations)
    { exit := 0
      stdout := log ++ optional (flags.contains .dumpOps) operations
      stderr := compiled.written ++
        optional (flags.contains .verbose) s!"Successfully checked {script}\n" }

/-- Checks a script, or says why it could not be read. -/
def check (flags : List Flag) (script : String) : Except ReadError String → Result
  | .error cause => { exit := 1, stderr := s!"error: could not read {script}: {cause.message}\n" }
  | .ok source => checkScript flags script source

def versionText : String := "cmmc 0.1.0\n"

def usageText : String :=
  "Usage: cmmc [OPTIONS] <INPUT>\n\n" ++
  "  -v, --verbose       Write notes about the progress\n" ++
  "      --trace         Log every declaration, assignment and call\n" ++
  "      --dump-tokens   List the tokens\n" ++
  "      --dump-symbols  List the variables after the check\n" ++
  "      --dump-ops      List the recorded operations\n" ++
  "  -h, --help          Show this help\n" ++
  "  -V, --version       Show the version\n"

/-- What is left to do once the arguments are read. -/
inductive Plan where
  /-- Nothing but to write the result. -/
  | finish (result : Result)
  /-- To read a script and check it. -/
  | check (script : String) (flags : List Flag)
deriving DecidableEq, Repr

def plan (arguments : List String) : Plan :=
  match readArguments arguments with
  | .error error => .finish { exit := 2, stderr := s!"error: {error.message}\n\n{usageText}" }
  | .ok .help => .finish { exit := 0, stdout := usageText }
  | .ok .version => .finish { exit := 0, stdout := versionText }
  | .ok (.check script flags) => .check script flags

end ScriptCheck.CommandLine
