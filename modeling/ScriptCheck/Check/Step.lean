import ScriptCheck.Check.Assignment
import ScriptCheck.Check.Arithmetic

/-! # One position of a check

The token before a position selects the rule: after an operator the token is folded into a variable,
after an equal sign it is assigned, and otherwise it is checked against what may stand before it.
A type keyword before a name declares a variable. Calls that no rule has evaluated are evaluated
where they stand.
-/

namespace ScriptCheck

/-- Declares the token as a variable. A numeral or a string literal is no name, and such a token
is not marked as refused, so that an initializer is still reported as an assignment to it. -/
def State.declare (state : State) (site : Site) (type : ValueType) : Progress :=
  let token := site.token
  if !token.isName then state.report site (.invalidName token.text)
  else match state.table.declare? token.text type token.scope with
    | some table => ⟨{ state with table }, [.declared site type]⟩
    | none =>
      { state with refused := state.refused ++ [site.position] }.report site
        (.redeclared token.text)

/-- A semicolon may follow a value, a call and the end of another statement. -/
def State.endStatement (state : State) (site : Site) (previous : Token) : Progress :=
  if previous.kind.endsStatement || previous.endsOperand then state.idle
  else if previous.isType then state.report site (.missingDefinition previous.line)
  else if previous.kind = .equals then state.report site (.missingSource previous.line)
  else state.idle

/-- A value may not follow a value. After a type keyword it is declared; a call that has not been
evaluated as part of something larger is evaluated. -/
def Script.enterValue (script : Script) (state : State) (i : Nat) (previous current : Token) :
    Progress :=
  let site : Site := ⟨i, current⟩
  if previous.isValue then state.report site (.adjacent previous.text current.text)
  else
    let declared := match previous.kind.declares? with
      | some type => state.declare site type
      | none => state.idle
    let state := declared.state
    if script.isCallee i && !state.evaluated.contains i then
      let call := script.evaluate state.table i current
      ⟨state.noting call, declared.events ++ call.events⟩
    else declared

/-- What may stand before a token. -/
def Script.checkGrammar (script : Script) (state : State) (i : Nat) (previous current : Token) :
    Progress :=
  let site : Site := ⟨i, current⟩
  match current.kind with
  | .openScope | .closeScope =>
    if previous.kind.endsStatement then state.idle
    else state.report site (.unfinishedStatement previous.line)
  | .semicolon => state.endStatement site previous
  | .equals =>
    if previous.isValue then state.idle else state.report site (.misplacedEquals previous.text)
  | .typeInt | .typeFloat | .typeString =>
    if previous.kind.endsStatement then state.idle
    else state.report site (.misplacedType previous.text)
  | .identifier | .stringLiteral => script.enterValue state i previous current
  | .plus | .minus | .openParen | .closeParen | .comma => state.idle

/-- A script begins with a block or a declaration. -/
def State.begin (state : State) (site : Site) : Progress :=
  if site.token.kind = .openScope || site.token.isType then state.idle
  else state.report site (.badStart site.token.text)

/-- The rule for the token `current` at position `i`, after the token `previous`. -/
def Script.follow (script : Script) (state : State) (i : Nat) (previous current : Token) :
    Progress :=
  match previous.kind.operator? with
  | some operator => script.combine state i operator previous current
  | none =>
    match (if previous.kind = .equals then script.before? i 2 else none) with
    | none => script.checkGrammar state i previous current
    | some target =>
      let ruling := script.assign state i target current
      if ruling.continues then
        (script.checkGrammar ruling.progress.state i previous current).after
          ruling.progress.events
      else ruling.progress

/-- Checks the token at position `i`, unless it belongs to a call that was given up. -/
def Script.step (script : Script) (state : State) (i : Nat) : Progress :=
  if i < state.resume then state.idle
  else match script.tokens[i]? with
    | none => state.idle
    | some current => match script.before? i 1 with
      | none => state.begin ⟨i, current⟩
      | some previous => script.follow state i previous current

def Script.steps (script : Script) (state : State) : List Nat → Progress
  | [] => state.idle
  | i :: rest =>
    let progress := script.step state i
    (script.steps progress.state rest).after progress.events

/-- Positions can be checked in two goes, the second from the state that the first one left. -/
theorem Script.steps_append (script : Script) (state : State) (front back : List Nat) :
    script.steps state (front ++ back) =
      (script.steps (script.steps state front).state back).after
        (script.steps state front).events := by
  induction front generalizing state with
  | nil => simp [Script.steps, State.idle, Progress.after_nil]
  | cons i front ih =>
    simp only [List.cons_append, Script.steps, ih, Progress.after_after]
    rfl

def Script.run (script : Script) : Progress :=
  script.steps {} (List.range script.size)

end ScriptCheck
