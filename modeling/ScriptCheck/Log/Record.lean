import ScriptCheck.Text.Columns

/-! # Log records

A record has a level, the part of the program that wrote it, and a message. A reader of the log
chooses the least severe level that is shown.
-/

namespace ScriptCheck.Log

/-- The levels, the most severe first. -/
inductive Level where
  | error
  | warn
  | info
  | debug
  | trace
deriving DecidableEq, Repr

namespace Level

def name : Level → String
  | error => "ERROR"
  | warn => "WARN"
  | info => "INFO"
  | debug => "DEBUG"
  | trace => "TRACE"

/-- The place of a level, from the most severe down. -/
def rank : Level → Nat
  | error => 0
  | warn => 1
  | info => 2
  | debug => 3
  | trace => 4

end Level

/-- The parts of the program that write to the log. -/
inductive Origin where
  | command
  | natives
  | builtins
  | frontend
  | scanner
  | checker
deriving DecidableEq, Repr

def Origin.name : Origin → String
  | .command => "cmmc"
  | .natives => "cmm_compiler::natives"
  | .builtins => "cmm_compiler::natives::builtins"
  | .frontend => "cmm_compiler::frontend"
  | .scanner => "cmm_compiler::frontend::lexer::scanner"
  | .checker => "cmm_compiler::frontend::sema::checker"

structure Record where
  level : Level
  origin : Origin
  message : String
deriving DecidableEq, Repr

namespace Record

/-- Whether a log that goes down to `least` shows the record. -/
def shownAt (record : Record) (least : Level) : Bool := record.level.rank ≤ least.rank

/-- The line of a record in the log: the level in five columns, the origin in brackets. -/
def line (record : Record) : String :=
  let level := String.ofList (Text.padRight 5 record.level.name.toList)
  let origin := record.origin.name
  s!"{level} [{origin}] {record.message}"

def brief (record : Record) : String :=
  let level := record.level.name
  s!"{level} {record.message}"

end Record

end ScriptCheck.Log
