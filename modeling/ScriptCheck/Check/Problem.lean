import ScriptCheck.Native.Basic
import ScriptCheck.Diagnostic

/-! # What a check can find wrong

Each problem is a cause with the names it concerns. `Problem.message` is the only place that words
them. A finding is a problem at a token of the script; its diagnostic carries the line and the bytes
of that token.
-/

namespace ScriptCheck

/-- How a refused assignment shows its source: a name or a numeral in single quotes, the contents
of a string literal in double quotes. -/
inductive Source where
  | word (text : String)
  | literal (contents : String)
deriving DecidableEq, Repr

def Source.shown : Source → String
  | word text => s!"'{text}'"
  | literal contents => "\"" ++ contents ++ "\""

/-- The causes of diagnostics. -/
inductive Problem where
  /-- A script begins with a block or a declaration. -/
  | badStart (text : String)
  /-- A brace stands in the middle of a statement. -/
  | unfinishedStatement (line : Nat)
  /-- A declaration has a type and no name. -/
  | missingDefinition (line : Nat)
  /-- Nothing follows an equal sign. -/
  | missingSource (line : Nat)
  /-- An equal sign follows something that is not a value. -/
  | misplacedEquals (before : String)
  /-- A type follows something that does not end a statement. -/
  | misplacedType (before : String)
  /-- Two tokens cannot stand next to each other. -/
  | adjacent (before after : String)
  /-- A type is followed by something that cannot be a name. -/
  | invalidName (text : String)
  /-- A name is declared a second time. -/
  | redeclared (name : String)
  /-- A variable is declared on a level that the place does not reach. -/
  | hidden (name : String)
  /-- An assignment reads a name that is not declared. -/
  | unknownSource (source target : String)
  /-- An assignment writes to a numeral. -/
  | constantTarget (text : String)
  /-- An assignment writes to a string literal. -/
  | literalTarget (text : String)
  /-- An assignment writes to a name that is not declared. -/
  | unknownTarget (name : String)
  /-- The types of source and target differ. -/
  | sourceType (source : Source) (target : String)
  /-- A function without a value is assigned. -/
  | voidSource (callee target : String)
  /-- The types of a function's value and of the target differ. -/
  | resultType (callee target : String)
  /-- An operator reads a name that is not declared. -/
  | unknownOperand (name : String)
  /-- A function without a value is an operand. -/
  | voidOperand (callee : String)
  /-- An operator changes a name that is not declared. -/
  | unknownLeft (operator name : String)
  /-- The types of operand and target differ. -/
  | operandType (operand target : String)
  /-- Strings are subtracted. -/
  | stringMinus
  /-- A call reads a name that is not declared. -/
  | unknownArgument (name callee : String)
  /-- A function without a value is an argument. -/
  | voidArgument (argument callee : String)
  /-- An argument list goes on with something that is no argument. -/
  | expectedArgument (callee found : String)
  /-- An argument is followed by neither a comma nor a closing parenthesis. -/
  | expectedSeparator (callee found : String)
  /-- A statement ends inside an argument list. -/
  | unclosedCall (callee : String)
  /-- A call was refused. -/
  | refusedCall (error : CallError)
deriving DecidableEq, Repr

def Problem.message : Problem → String
  | badStart text => s!"Unexpected '{text}' at start of the script found."
  | unfinishedStatement line => s!"Finish the statement at line {line} first."
  | missingDefinition line =>
    s!"Expected an equal sign followed by a value or variable on line {line}"
  | missingSource line =>
    s!"Expected a value or variable after the equal sign on line {line}"
  | misplacedEquals before => s!"{before} cannot be followed by an equal sign."
  | misplacedType before => s!"{before} cannot be followed by a type."
  | adjacent before after => s!"'{before}' cannot be followed by '{after}'."
  | invalidName text => s!"'{text}' is not a valid variable name."
  | redeclared name => s!"'{name}' already exists. Cannot re-declare a variable."
  | hidden name => s!"Cannot access {name}, that variable is declared on another level."
  | unknownSource source target =>
    s!"Cannot assign '{source}' to '{target}', '{source}' does not exist."
  | constantTarget text => s!"Cannot assign to a value constant ({text})."
  | literalTarget text => s!"Cannot assign to a string literal ({text})."
  | unknownTarget name => s!"Cannot assign to '{name}', that variable does not exist."
  | sourceType source target =>
    let shown := source.shown
    s!"Cannot assign {shown} to '{target}', the types differ."
  | voidSource callee target =>
    s!"Cannot assign the result of '{callee}' to '{target}', the function does not return a value."
  | resultType callee target =>
    s!"Cannot assign the result of '{callee}' to '{target}', the types differ."
  | unknownOperand name =>
    s!"Cannot use '{name}' in an expression, that variable does not exist."
  | voidOperand callee =>
    s!"Cannot use '{callee}' in an expression, the function does not return a value."
  | unknownLeft operator name =>
    s!"Cannot apply '{operator}' to '{name}', that variable does not exist."
  | operandType operand target =>
    s!"Cannot concatenate '{operand}' and '{target}', the types differ."
  | stringMinus => "The string type does not define the minus operator."
  | unknownArgument name callee =>
    s!"Cannot pass '{name}' to '{callee}', '{name}' does not exist."
  | voidArgument argument callee =>
    s!"Cannot pass the result of '{argument}' to '{callee}', the function does not return a value."
  | expectedArgument callee found =>
    s!"Expected an argument in call to '{callee}', found '{found}'."
  | expectedSeparator callee found =>
    s!"Expected ',' or ')' in call to '{callee}', found '{found}'."
  | unclosedCall callee => s!"Missing ')' in call to '{callee}'."
  | refusedCall error => error.message

structure Site where
  position : Nat
  token : Token
deriving DecidableEq, Repr

structure Finding where
  site : Site
  problem : Problem
deriving DecidableEq, Repr

def Finding.diagnostic (finding : Finding) : Diagnostic :=
  { line := finding.site.token.line, span := finding.site.token.span,
    message := finding.problem.message }

end ScriptCheck
