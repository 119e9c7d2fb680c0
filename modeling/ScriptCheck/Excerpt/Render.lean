import ScriptCheck.Excerpt.Frame
import ScriptCheck.Failure

/-! # Rendered reports

What is written for a diagnostic and for a failure. Each report ends with an empty line.
-/

namespace ScriptCheck

def errorLine (message : String) : String := s!"error: {message}\n"

/-- A diagnostic about a file, with an excerpt. -/
def Diagnostic.render (diagnostic : Diagnostic) (file : SourceFile) : String :=
  let rows := (Excerpt.frame file diagnostic.span).map fun row => String.ofList (row ++ ['\n'])
  errorLine diagnostic.message ++ String.join rows ++ "\n"

def Failure.render (failure : Failure) (name : String) : String :=
  match failure with
  | .rejected _ => errorLine s!"could not compile \x60{name}\x60" ++ s!" = {failure.message}\n\n"
  | _ => errorLine failure.message ++ "\n"

/-- A diagnostic about the file of number `id`. Nothing is written about an unknown file. -/
def renderDiagnostic (files : List SourceFile) (id : Nat) (diagnostic : Diagnostic) : String :=
  match files[id]? with
  | some file => diagnostic.render file
  | none => ""

/-- A failure about the file of number `id`. A file that is not known has no name. -/
def renderFailure (files : List SourceFile) (id : Nat) (failure : Failure) : String :=
  match files[id]? with
  | some file => failure.render file.name
  | none => failure.render ""

end ScriptCheck
