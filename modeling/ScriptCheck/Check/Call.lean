import ScriptCheck.Check.Event
import ScriptCheck.Check.Script
import ScriptCheck.Table

/-! # Evaluating calls

A call is read from its opening parenthesis on, one token at a time, with the open calls on a stack,
the innermost on top. An argument is a single value or a call; a comma asks for one more argument,
and a closing parenthesis closes the call on top. A closed call runs its function if that exists and
every argument has a value, and hands the outcome to the call around it.

A token that fits nowhere, or one that ends the statement, makes the reader give up all open calls
at once: nothing more is run, and the rest of the statement is left alone.
-/

namespace ScriptCheck

/-- An open call: its callee, the arguments so far, and whether each of them has a value. -/
structure Frame where
  callee : Site
  args : List Value := []
  complete : Bool := true
deriving DecidableEq, Repr

/-- What may come next in an argument list. -/
inductive Expected where
  /-- The opening parenthesis of the call on top. -/
  | opening
  /-- An argument, or the end of an empty list. -/
  | first
  /-- An argument. -/
  | argument
  /-- A comma or the end of the list. -/
  | separator
deriving DecidableEq, Repr

/-- The result of reading a call: how it ended, the position of its closing parenthesis unless it
was given up, what happened on the way, the callees that were met, and the position before which the
tokens of a call that was given up are skipped. -/
structure CallResult where
  outcome : Outcome
  close : Option Nat
  events : List Event := []
  callees : List Nat := []
  resume : Nat := 0
deriving DecidableEq, Repr

namespace CallResult

def after (events : List Event) (result : CallResult) : CallResult :=
  { result with events := events ++ result.events }

def meeting (callee : Nat) (result : CallResult) : CallResult :=
  { result with callees := callee :: result.callees }

/-- Gives up at `position`, where the tokens `rest` begin. -/
def abandoned (frame : Frame) (problem : Problem) (position : Nat) (rest : List Token) :
    CallResult :=
  { outcome := .failed, close := none, events := [.reported ⟨frame.callee, problem⟩],
    resume := Script.statementEnd position rest }

end CallResult

namespace Frame

def name (frame : Frame) : String := frame.callee.token.text

def push (frame : Frame) (value : Value) : Frame :=
  { frame with args := frame.args ++ [value] }

def fail (frame : Frame) : Frame :=
  { frame with complete := false }

def take (table : Table) (frame : Frame) (site : Site) : Frame × List Event :=
  match site.token.literal? with
  | some value => (frame.push value, [])
  | none => match table.resolve site.token.text site.token.scope with
    | .visible value => (frame.push value, [])
    | .hidden => (frame.fail, [.reported ⟨site, .hidden site.token.text⟩])
    | .unknown =>
      (frame.fail, [.reported ⟨site, .unknownArgument site.token.text frame.name⟩])

/-- Takes the outcome of a nested call as an argument. -/
def receive (frame : Frame) (callee : Site) : Outcome → Frame × List Event
  | .value value => (frame.push value, [])
  | .void => (frame.fail, [.reported ⟨callee, .voidArgument callee.token.text frame.name⟩])
  | .failed => (frame.fail, [])

/-- Runs the function of a call whose closing parenthesis stands at `close`. -/
def run (natives : Registry) (frame : Frame) (close : Nat) : Outcome × List Event :=
  if !natives.has frame.name then
    (.failed, [.reported ⟨frame.callee, .refusedCall (.unknown frame.name)⟩])
  else if !frame.complete then (.failed, [])
  else match natives.call frame.name frame.args with
    | .error error =>
      (.failed, [.reported ⟨frame.callee, .refusedCall error⟩,
        .called ⟨frame.callee, close, frame.args, none⟩])
    | .ok reply =>
      let call : Invocation := ⟨frame.callee, close, frame.args, some reply⟩
      (call.outcome, [.called call])

end Frame

/-- Reads the tokens from `position` on, inside the call `top` and the calls `below` around it. -/
def readCall (natives : Registry) (table : Table) :
    List Token → Nat → Expected → Frame → List Frame → CallResult
  | [], position, _, top, _ => .abandoned top (.unclosedCall top.name) position []
  | t :: rest, position, expected, top, below =>
    if t.kind.endsStatement then
      .abandoned top (.unclosedCall top.name) position (t :: rest)
    else if expected = .opening then
      readCall natives table rest (position + 1) .first top below
    else if t.kind = .closeParen ∧ expected ≠ .argument then
      let ran := top.run natives position
      match below with
      | [] => { outcome := ran.1, close := some position, events := ran.2 }
      | parent :: others =>
        let heard := parent.receive top.callee ran.1
        (readCall natives table rest (position + 1) .separator heard.1 others).after
          (ran.2 ++ heard.2)
    else if expected = .separator then
      if t.kind = .comma then readCall natives table rest (position + 1) .argument top below
      else .abandoned top (.expectedSeparator top.name t.text) position (t :: rest)
    else if Script.opensCall t rest.head? then
      (readCall natives table rest (position + 1) .opening ⟨⟨position, t⟩, [], true⟩
        (top :: below)).meeting position
    else if t.isValue then
      let taken := top.take table ⟨position, t⟩
      (readCall natives table rest (position + 1) .separator taken.1 below).after taken.2
    else .abandoned top (.expectedArgument top.name t.text) position (t :: rest)

/-- Evaluates the call whose callee is the token `t` at position `p`. -/
def Script.evaluate (script : Script) (table : Table) (p : Nat) (t : Token) : CallResult :=
  (readCall script.natives table (script.tokens.drop (p + 2)) (p + 2) .first ⟨⟨p, t⟩, [], true⟩
    []).meeting p

end ScriptCheck
