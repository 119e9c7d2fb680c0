import ScriptCheck.Excerpt.Render
import ScriptCheck.Listing
import ScriptCheck.Log.Check

/-! # Compiling a script

A script compiles when its check finds nothing wrong. On the way, listings and notes about the
progress are written if they are asked for, then every diagnostic, and last the failure if there is
one.
-/

namespace ScriptCheck

/-- What is written beside the diagnostics. -/
structure CompileOptions where
  dumpTokens : Bool := false
  dumpSymbols : Bool := false
  verbose : Bool := false
deriving DecidableEq, Repr

/-- The outcome of compiling a script: the report unless the script was rejected, what was written,
and what was logged. -/
structure Compilation where
  result : Except Failure Report
  written : String
  log : List Log.Record

/-- A listing between two headings. -/
def titled (title listing : String) : String :=
  s!"=== {title} ===\n{listing}=== End {title} ===\n"

/-- A text that is written only if `wanted`. -/
def optional (wanted : Bool) (text : String) : String := if wanted then text else ""

def compile (natives : Registry) (options : CompileOptions) (file : SourceFile) : Compilation :=
  let report := checkSource natives file.source
  let symbols := report.symbols.length
  let operations := report.operations.length
  let before :=
    optional options.verbose s!"Lexing {file.name}...\n" ++
    optional options.dumpTokens (titled "Tokens" (tokenListing (tokenize file.source)) ++ "\n") ++
    optional options.verbose "Checking...\n" ++
    optional options.dumpSymbols (titled "Symbols" report.symbolListing ++ "\n") ++
    String.join (report.diagnostics.map fun diagnostic => diagnostic.render file)
  let log := checkLog natives file.source
  if report.hasErrors then
    let failure := Failure.rejected report.diagnostics.length
    { result := .error failure, written := before ++ failure.render file.name, log }
  else
    let summary := s!"Checked {file.name}: {symbols} variable(s), {operations} operation(s)\n"
    { result := .ok report, written := before ++ optional options.verbose summary, log }

end ScriptCheck
