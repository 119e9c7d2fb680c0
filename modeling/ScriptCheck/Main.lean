import ScriptCheck.CommandLine.Run

/-! # The command

Reads the script that the arguments name and writes what the check leaves behind.
-/

namespace ScriptCheck.CommandLine

def readScript (path : String) : IO (Except ReadError String) := do
  try
    let bytes ← IO.FS.readBinFile path
    return decode bytes
  catch error =>
    match error with
    | .noFileOrDirectory .. => return .error .missing
    | .inappropriateType _ code _ =>
      return .error (if code = 21 then .directory else .notDirectory)
    | error => return .error (.other (toString error))

/-- Answers the arguments, reading the script if they name one. -/
def execute (arguments : List String) : IO Result := do
  match plan arguments with
  | .finish result => return result
  | .check script flags => return check flags script (← readScript script)

end ScriptCheck.CommandLine

def main (arguments : List String) : IO UInt32 := do
  let result ← ScriptCheck.CommandLine.execute arguments
  (← IO.getStdout).putStr result.stdout
  (← IO.getStderr).putStr result.stderr
  return result.exit
