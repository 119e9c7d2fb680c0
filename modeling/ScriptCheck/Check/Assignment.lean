import ScriptCheck.Check.State

/-! # Assignments

The token after an equal sign is stored into the variable before it. The target is settled first,
so its problem is reported before any problem of the source; a target that cannot be assigned to
still lets the source be evaluated. Tokens that are neither a value nor a part of an expression are
left to the rules of the grammar.
-/

namespace ScriptCheck

/-- What a rule did, and whether the rules of the grammar still apply to the token. -/
structure Ruling where
  progress : Progress
  continues : Bool
deriving DecidableEq, Repr

namespace State

/-- The variable that an assignment to the token at `position` stores into, if it may be stored
into. Problems are reported at `site`. The refusal of a declaration has been reported already. -/
def destination (state : State) (position : Nat) (target : Token) (site : Site) :
    Option String × List Event :=
  if state.refused.contains position then (none, [])
  else match state.table.resolve target.text target.scope with
    | .visible _ => (some target.text, [])
    | .hidden => (none, [.reported ⟨site, .hidden target.text⟩])
    | .unknown =>
      let problem :=
        if target.isNumber then .constantTarget target.text
        else if target.kind = .stringLiteral then .literalTarget target.text
        else .unknownTarget target.text
      (none, [.reported ⟨site, problem⟩])

/-- Stores a value into a variable if the types agree, and reports `mismatch` otherwise. -/
def store (state : State) (site : Site) (target : String) (value : Value) (mismatch : Problem) :
    Ruling :=
  match state.table.find? target with
  | none => ⟨state.idle, true⟩
  | some symbol =>
    if symbol.type = value.type then
      ⟨⟨{ state with table := state.table.assign target value }, [.stored site target value]⟩,
        true⟩
    else ⟨state.report site mismatch, false⟩

def storeOutcome (state : State) (site : Site) (target : String) : Outcome → Progress
  | .failed => state.idle
  | .void => state.report site (.voidSource site.token.text target)
  | .value value =>
    (state.store site target value (.resultType site.token.text target)).progress

end State

/-- The tokens after an equal sign that begin no value and are part of an expression. -/
def Kind.isMisplacedSource (kind : Kind) : Bool :=
  [Kind.openParen, .closeParen, .comma, .plus, .minus].contains kind

/-- How a refused assignment shows the token that it reads. -/
def Token.asSource (t : Token) : Source :=
  match t.contents? with
  | some contents => .literal contents
  | none => .word t.text

/-- The rule for the token `current` at position `i`, after an equal sign that follows `target`. -/
def Script.assign (script : Script) (state : State) (i : Nat) (target current : Token) : Ruling :=
  let site : Site := ⟨i, current⟩
  let settled := state.destination (i - 2) target site
  if script.isCallee i then
    let call := script.evaluate state.table i current
    let state := state.noting call
    let stored := match settled.1 with
      | some name => state.storeOutcome site name call.outcome
      | none => state.idle
    ⟨stored.after (settled.2 ++ call.events), false⟩
  else if !current.isValue then
    if current.kind.isMisplacedSource then
      ⟨(state.report site (.unknownSource current.text target.text)).after settled.2, false⟩
    else ⟨⟨state, settled.2⟩, true⟩
  else
    let source : Resolution := match current.literal? with
      | some value => .visible value
      | none => state.table.resolve current.text target.scope
    match source with
    | .hidden => ⟨(state.report site (.hidden current.text)).after settled.2, false⟩
    | .unknown =>
      ⟨(state.report site (.unknownSource current.text target.text)).after settled.2, true⟩
    | .visible value =>
      match settled.1 with
      | none => ⟨⟨state, settled.2⟩, true⟩
      | some name =>
        let stored := state.store site name value (.sourceType current.asSource name)
        { stored with progress := stored.progress.after settled.2 }

end ScriptCheck
