import ScriptCheck.Check.State

/-! # Operators

There is no expression tree. The token after `+` or `-` is folded at once into a variable: the
nearest one before it in the same statement, where numerals, callees and everything between the
parentheses of a call are stepped over. An operand that is itself a variable is the nearest one for
the operator after it. A chain of operators remembers its target, so that it need not look back.
-/

namespace ScriptCheck

/-- The nearest variable before position `i` in the same statement, with `depth` closing
parentheses passed on the way. An operand inside an argument list has none. -/
def Script.nearest? (script : Script) (depth : Nat) : Nat → Option Nat
  | 0 => none
  | j + 1 =>
    match script.tokens[j]? with
    | none => none
    | some t =>
      if t.kind.endsStatement then none
      else if t.kind = .closeParen then script.nearest? (depth + 1) j
      else if t.kind = .openParen then
        if depth = 0 then none else script.nearest? (depth - 1) j
      else if t.kind = .comma ∧ depth = 0 then none
      else if depth = 0 ∧ t.isName ∧ !script.isCallee j then some j
      else script.nearest? depth j

/-- The value of an operand and the position of its last token. -/
structure Operand where
  value : Value
  last : Nat
deriving DecidableEq, Repr

/-- What reading an operand came to: the operand, if it has a value, and the call that it was, if it
was one. -/
structure OperandResult where
  operand : Option Operand
  call : Option CallResult := none
  events : List Event := []
deriving DecidableEq, Repr

/-- Reads the operand `current` at position `i`, after the operator `op`. -/
def Script.operand (script : Script) (table : Table) (i : Nat) (op current : Token) :
    OperandResult :=
  let site : Site := ⟨i, current⟩
  if script.isCallee i then
    let call := script.evaluate table i current
    match call.outcome, call.close with
    | .value value, some last => { operand := some ⟨value, last⟩, call, events := call.events }
    | .void, _ =>
      { operand := none, call
        events := call.events ++ [.reported ⟨site, .voidOperand current.text⟩] }
    | _, _ => { operand := none, call, events := call.events }
  else match current.literal? with
    | some value => { operand := some ⟨value, i⟩ }
    | none =>
      if current.kind ≠ .identifier then
        { operand := none, events := [.reported ⟨site, .adjacent op.text current.text⟩] }
      else match table.resolve current.text current.scope with
        | .visible value => { operand := some ⟨value, i⟩ }
        | .hidden => { operand := none, events := [.reported ⟨site, .hidden current.text⟩] }
        | .unknown =>
          { operand := none, events := [.reported ⟨site, .unknownOperand current.text⟩] }

/-- The position that the operator before `i` changes: the target of the chain that it continues,
or the nearest variable. -/
def Script.foldTarget (script : Script) (state : State) (i : Nat) : Option Nat :=
  match state.chain with
  | some chain => if chain.last + 2 = i then some chain.target else script.nearest? 0 i
  | none => script.nearest? 0 i

/-- Folds a value into the variable that `target` names. -/
def State.fold (state : State) (site : Site) (operator : Operator) (op target : Token)
    (value : Value) : Progress :=
  match state.table.resolve target.text target.scope with
  | .hidden => state.report site (.hidden target.text)
  | .unknown => state.report site (.unknownLeft op.text target.text)
  | .visible old =>
    if old.type ≠ value.type then
      state.report site (.operandType site.token.text target.text)
    else match operator.apply old value with
      | none => state.report site .stringMinus
      | some result =>
        ⟨{ state with table := state.table.update target.text result },
          [.folded site target.text op.text result]⟩

/-- Folds a value into the variable at position `target`, unless the declaration there was refused. -/
def Script.foldAt (script : Script) (state : State) (i target : Nat) (operator : Operator)
    (op current : Token) (value : Value) : Progress :=
  if state.refused.contains target then state.idle
  else match script.tokens[target]? with
    | none => state.idle
    | some left => state.fold ⟨i, current⟩ operator op left value

/-- Uses what the operand at position `i` came to: a value is folded into the target, and the chain goes
on from the operand. -/
def Script.useOperand (script : Script) (state : State) (i : Nat) (operator : Operator)
    (op current : Token) (read : OperandResult) : Progress :=
  match read.operand, script.foldTarget state i with
  | some operand, some target =>
    let next := if operand.last = i && current.isName then i else target
    let state := { state with chain := some ⟨operand.last, next⟩ }
    (script.foldAt state i target operator op current operand.value).after read.events
  | _, _ => ⟨state, read.events⟩

/-- Notes the call that an operand was, if it was one. -/
def State.notingOperand (state : State) (read : OperandResult) : State :=
  match read.call with
  | some call => state.noting call
  | none => state

/-- Whether an operand stands before the operator before position `i`. -/
def Script.hasLeft (script : Script) (i : Nat) : Bool :=
  (script.before? i 2).any Token.endsOperand

/-- The rule for the token `current` at position `i`, after the operator `op`. Without a left
operand there is nothing to change. -/
def Script.combine (script : Script) (state : State) (i : Nat) (operator : Operator)
    (op current : Token) : Progress :=
  if !script.hasLeft i then state.idle
  else
    let read := script.operand state.table i op current
    script.useOperand (state.notingOperand read) i operator op current read

end ScriptCheck
