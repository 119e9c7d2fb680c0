import ScriptCheck.Report

/-! # The states of a run

A run visits the positions of a script in order, so it is given by the state before each position and
by what happens there. `Script.stateAt_induct` is the induction over these states; the events of a run
are those of its positions, one position after the other.
-/

namespace ScriptCheck

namespace State

@[simp] theorem idle_state (state : State) : state.idle.state = state := rfl

@[simp] theorem idle_events (state : State) : state.idle.events = [] := rfl

@[simp] theorem report_state (state : State) (site : Site) (problem : Problem) :
    (state.report site problem).state = state := rfl

@[simp] theorem report_events (state : State) (site : Site) (problem : Problem) :
    (state.report site problem).events = [.reported ⟨site, problem⟩] := rfl

end State

namespace Progress

@[simp] theorem after_state (events : List Event) (progress : Progress) :
    (progress.after events).state = progress.state := rfl

@[simp] theorem after_events (events : List Event) (progress : Progress) :
    (progress.after events).events = events ++ progress.events := rfl

@[simp] theorem invocations_after (events : List Event) (progress : Progress) :
    (progress.after events).invocations =
      events.filterMap Event.invocation? ++ progress.invocations := by
  simp [invocations]

end Progress

namespace Script

theorem before?_succ {script : Script} {i back : Nat} :
    script.before? (i + 1) (back + 1) = script.before? i back := by
  simp [before?]

/-- The state of a check before it looks at position `i`. -/
def stateAt (script : Script) (i : Nat) : State := (script.steps {} (List.range i)).state

def progressAt (script : Script) (i : Nat) : Progress := script.step (script.stateAt i) i

@[simp] theorem stateAt_zero (script : Script) : script.stateAt 0 = {} := rfl

private theorem steps_singleton (script : Script) (state : State) (i : Nat) :
    script.steps state [i] = script.step state i := by
  simp [steps, Progress.after, State.idle]

theorem stateAt_succ (script : Script) (i : Nat) :
    script.stateAt (i + 1) = (script.progressAt i).state := by
  rw [stateAt, List.range_succ, steps_append, Progress.after_state, steps_singleton]
  rfl

theorem step_stateAt (script : Script) (i : Nat) :
    (script.step (script.stateAt i) i).state = script.stateAt (i + 1) :=
  (script.stateAt_succ i).symm

private theorem events_steps_range (script : Script) (n : Nat) :
    (script.steps {} (List.range n)).events =
      (List.range n).flatMap fun i => (script.progressAt i).events := by
  induction n with
  | zero => rfl
  | succ n ih =>
    rw [List.range_succ, steps_append, Progress.after_events, steps_singleton, ih,
      List.flatMap_append, List.flatMap_singleton]
    rfl

theorem run_state (script : Script) : script.run.state = script.stateAt script.size := rfl

theorem run_events (script : Script) :
    script.run.events =
      (List.range script.size).flatMap fun i => (script.progressAt i).events :=
  script.events_steps_range script.size

/-- A run is cut in two: some positions from the start on, and those behind them. -/
theorem run_cut (script : Script) {m n : Nat} (size : script.size = m + n) :
    script.run = (script.steps (script.stateAt m) (List.range' m n)).after
      (script.steps {} (List.range m)).events := by
  rw [run, size, List.range_eq_range', ← List.range'_append_1, steps_append, Nat.zero_add,
    ← List.range_eq_range']
  rfl

/-- What holds at the start and is kept by every position holds before every position. -/
theorem stateAt_induct (script : Script) {motive : Nat → State → Prop} (start : motive 0 {})
    (step : ∀ i, motive i (script.stateAt i) → motive (i + 1) (script.progressAt i).state)
    (i : Nat) : motive i (script.stateAt i) := by
  induction i with
  | zero => exact start
  | succ i ih =>
    rw [stateAt_succ]
    exact step i ih

end Script

end ScriptCheck
