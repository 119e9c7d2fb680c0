import ScriptCheck.Log.Record
import ScriptCheck.Report

/-! # The log of a check

First what the end of the source left unfinished and the number of tokens, then every event but the
findings, last a summary.
-/

namespace ScriptCheck

/-- What is logged when a source is cut into tokens. -/
def tokenizeLog (source : String) : List Log.Record :=
  let count := (tokenize source).length
  (leftover? source).toList.map (fun left => ⟨.debug, .scanner, left.message⟩) ++
    [⟨.debug, .frontend, s!"lexed {count} tokens"⟩]

def Script.log (script : Script) : List Log.Record :=
  let progress := script.run
  let report := progress.report
  let symbols := report.symbols.length
  let diagnostics := report.diagnostics.length
  let operations := report.operations.length
  (progress.events.filterMap Event.trace?).map (fun line => ⟨.trace, .checker, line⟩) ++
    [⟨.debug, .checker, s!"checked {script.size} tokens: {symbols} symbols, " ++
      s!"{diagnostics} diagnostics, {operations} operations"⟩]

def checkLog (natives : Registry) (source : String) : List Log.Record :=
  tokenizeLog source ++ Script.log ⟨tokenize source, natives⟩

end ScriptCheck
