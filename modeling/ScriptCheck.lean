import ScriptCheck.Main
import ScriptCheck.Proofs.Scope.Visibility
import ScriptCheck.Proofs.Call.Nesting
import ScriptCheck.Proofs.Run.Trajectory
import ScriptCheck.Proofs.Call.Order
import ScriptCheck.Proofs.Run.Calls
import ScriptCheck.Proofs.Run.Rules
import ScriptCheck.Proofs.Run.Nearest
import ScriptCheck.Proofs.Statement.Start
import ScriptCheck.Proofs.Statement.Redeclaration
import ScriptCheck.Proofs.Call.Term
import ScriptCheck.Proofs.Call.Value
import ScriptCheck.Proofs.Run.Inside
import ScriptCheck.Proofs.Statement.Chain
import ScriptCheck.Proofs.Run.Clean
import ScriptCheck.Proofs.Statement.Assignment
import ScriptCheck.Proofs.Call.Ran
import ScriptCheck.Proofs.Run.Faultless
import ScriptCheck.Proofs.Run.Headings
import ScriptCheck.Proofs.Run.Names
import ScriptCheck.Proofs.Part.Statements
import ScriptCheck.Proofs.Run.Anew
import ScriptCheck.Proofs.Run.Findings
import ScriptCheck.Proofs.Run.Abandoned
import ScriptCheck.Proofs.Lexeme.Grammar
import ScriptCheck.Proofs.Token.Spans
import ScriptCheck.Proofs.Token.Scanner
import ScriptCheck.Proofs.Call.Outcome
import ScriptCheck.Proofs.Run.Reporting
import ScriptCheck.Proofs.Statement.Refusal
import ScriptCheck.Proofs.Call.Defined
import ScriptCheck.Proofs.Statement.Applies
import ScriptCheck.Proofs.Statement.Defined
import ScriptCheck.Proofs.Table.Overwrite
import ScriptCheck.Proofs.Run.Hidden
import ScriptCheck.Proofs.Call.Grammar
import ScriptCheck.Proofs.Token.Lines
import ScriptCheck.Proofs.Run.Declarations
import ScriptCheck.Proofs.Token.Written
import ScriptCheck.Proofs.Token.Places
import ScriptCheck.Proofs.Run.Layout
import ScriptCheck.Proofs.Run.Braces
import ScriptCheck.Proofs.Run.Adjacency
import ScriptCheck.Proofs.Native.Registration
import ScriptCheck.Proofs.Native.Signature
import ScriptCheck.Proofs.Table.Interned
import ScriptCheck.Proofs.Run.Renaming
import ScriptCheck.Proofs.Run.Numerals
import ScriptCheck.Proofs.Run.Builtins
import ScriptCheck.Proofs.Text.LineFeeds
import ScriptCheck.Proofs.Run.Listings
import ScriptCheck.Proofs.Native.Slices
import ScriptCheck.Proofs.Native.Operations
import ScriptCheck.Proofs.Guarded.Run
