import ScriptCheck.Check.Call

/-! # The state of a check

Between two positions a check carries the variables, the positions whose declaration was refused,
the callees that have been evaluated as part of something larger, the position before which tokens
are skipped, and the chain of operators in progress.
-/

namespace ScriptCheck

/-- A chain of operators: the last position of its last operand, and the position of the variable
that the next operator changes. -/
structure Chain where
  last : Nat
  target : Nat
deriving DecidableEq, Repr

/-- What a check carries from one position to the next. -/
structure State where
  table : Table := {}
  refused : List Nat := []
  evaluated : List Nat := []
  resume : Nat := 0
  chain : Option Chain := none
deriving DecidableEq, Repr

/-- A state together with the events that led to it. -/
structure Progress where
  state : State
  events : List Event := []
deriving DecidableEq, Repr

namespace State

/-- Notes the callees of a call and, when it was given up, where the check goes on. -/
def noting (state : State) (result : CallResult) : State :=
  { state with evaluated := state.evaluated ++ result.callees,
               resume := max state.resume result.resume }

def report (state : State) (site : Site) (problem : Problem) : Progress :=
  ⟨state, [.reported ⟨site, problem⟩]⟩

def idle (state : State) : Progress := ⟨state, []⟩

end State

namespace Progress

def after (events : List Event) (progress : Progress) : Progress :=
  { progress with events := events ++ progress.events }

theorem after_nil (progress : Progress) : progress.after [] = progress := by
  cases progress
  rfl

theorem after_after (first second : List Event) (progress : Progress) :
    (progress.after second).after first = progress.after (first ++ second) := by
  simp [after]

end Progress

end ScriptCheck
