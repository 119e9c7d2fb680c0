import ScriptCheck.Check.Step
import ScriptCheck.Tokenize

/-! # Reports

A report lists what was found wrong in the order of its discovery, the variables in the order of
their declaration, and the operations in the order of the calls.
-/

namespace ScriptCheck

structure Report where
  diagnostics : List Diagnostic
  symbols : List Symbol
  operations : List Operation
deriving DecidableEq, Repr

namespace Report

/-- Whether anything was found wrong. -/
def hasErrors (report : Report) : Bool := !report.diagnostics.isEmpty

def find? (report : Report) (name : String) : Option Symbol :=
  report.symbols.find? (·.name == name)

/-- One line for each diagnostic. -/
def diagnosticListing (report : Report) : String :=
  String.join (report.diagnostics.map fun diagnostic => diagnostic.text ++ "\n")

/-- One line for each variable. -/
def symbolListing (report : Report) : String :=
  String.join (report.symbols.map fun symbol => symbol.describe ++ "\n")

end Report

namespace Progress

def findings (progress : Progress) : List Finding := progress.events.filterMap Event.finding?

def invocations (progress : Progress) : List Invocation :=
  progress.events.filterMap Event.invocation?

def report (progress : Progress) : Report :=
  { diagnostics := progress.findings.map Finding.diagnostic
    symbols := progress.state.table.symbols
    operations := progress.events.flatMap Event.operations }

end Progress

def Script.report (script : Script) : Report := script.run.report

def checkSource (natives : Registry) (source : String) : Report :=
  Script.report ⟨tokenize source, natives⟩

end ScriptCheck
