import ScriptCheck.Proofs.Call.Clean

/-! # Calls that do not fail

A call fails exactly when something is found wrong in it, in the calls among its arguments included
(`Script.clean_evaluate_iff`). What is found wrong in an argument is not lost on the way: the call around it
lacks a value from then on, and so does every call around that one.
-/

namespace ScriptCheck

namespace Frame

variable {frame : Frame}

/-- A call whose argument has a value has found nothing wrong in it. -/
theorem take_complete {table : Table} {site : Site} (complete : (frame.take table site).1.complete = true) :
    frame.complete = true ∧ Event.Clean (frame.take table site).2 := by
  unfold take at complete ⊢
  split at complete
  · exact ⟨complete, rfl⟩
  · split at complete
    · exact ⟨complete, rfl⟩
    · cases complete
    · cases complete

/-- A call that has taken over the outcome of another one has taken over a value. -/
theorem receive_complete {callee : Site} {outcome : Outcome}
    (complete : (frame.receive callee outcome).1.complete = true) :
    frame.complete = true ∧ outcome ≠ .failed ∧ Event.Clean (frame.receive callee outcome).2 := by
  cases outcome with
  | failed => cases complete
  | void => cases complete
  | value value => exact ⟨complete, by simp, rfl⟩

/-- A call that has not failed had a value for each argument, and its function has accepted them. -/
theorem run_alive {natives : Registry} {close : Nat} (alive : (frame.run natives close).1 ≠ .failed) :
    frame.complete = true ∧ Event.Clean (frame.run natives close).2 := by
  unfold run at alive ⊢
  split at alive
  · exact absurd rfl alive
  · split at alive
    · exact absurd rfl alive
    · rename_i known complete
      refine ⟨by simpa using complete, ?_⟩
      rw [if_neg known, if_neg complete]
      split at alive
      · exact absurd rfl alive
      · rfl

end Frame

namespace Script

variable {script : Script} {table : Table} {p : Nat} {t : Token}

/-- A reading whose call does not fail finds nothing wrong, and no open call lacked a value before it. -/
theorem readCall_alive (table : Table) {ts : List Token} {position : Nat} {expected : Expected}
    (top : Frame) (below : List Frame) (reads : script.Reads position expected ts) :
    (readCall script.natives table ts position expected top below).outcome ≠ .failed →
      (∀ frame ∈ top :: below, frame.complete = true) ∧
        Event.Clean (readCall script.natives table ts position expected top below).events := by
  refine script.reading_induct table (motive := fun _ _ top below result =>
    result.outcome ≠ .failed → (∀ frame ∈ top :: below, frame.complete = true) ∧
      Event.Clean result.events) ?giveUp ?opening ?close ?closeInner ?comma ?callee ?value top below reads
  case giveUp =>
    intro _ _ _ _ _ _ alive
    exact absurd rfl alive
  case opening | comma =>
    intro _ _ _ _ _ _ _ ih
    exact ih
  case close =>
    intro _ _ _ top _ _ _ alive
    obtain ⟨complete, clean⟩ := Frame.run_alive alive
    exact ⟨by simpa using complete, clean⟩
  case closeInner =>
    intro _ _ _ top parent others _ _ _ _ ih alive
    obtain ⟨complete, later⟩ := ih alive
    rw [List.forall_mem_cons] at complete
    obtain ⟨around, inner, heard⟩ := Frame.receive_complete complete.1
    obtain ⟨own, ran⟩ := Frame.run_alive inner
    rw [List.forall_mem_cons, List.forall_mem_cons, CallResult.after_events, Event.clean_append,
      Event.clean_append]
    exact ⟨⟨own, around, complete.2⟩, ⟨ran, heard⟩, later⟩
  case callee =>
    intro _ _ _ _ _ _ _ _ _ _ ih alive
    obtain ⟨complete, later⟩ := ih alive
    exact ⟨(List.forall_mem_cons.mp complete).2, later⟩
  case value =>
    intro _ _ _ top below _ _ _ _ _ _ ih alive
    obtain ⟨complete, later⟩ := ih alive
    rw [List.forall_mem_cons] at complete ⊢
    obtain ⟨own, taken⟩ := Frame.take_complete complete.1
    rw [CallResult.after_events, Event.clean_append]
    exact ⟨⟨own, complete.2⟩, taken, later⟩

/-- A call finds nothing wrong exactly when it does not fail. -/
theorem clean_evaluate_iff (callee : script.isCallee p = true) :
    Event.Clean (script.evaluate table p t).events ↔ (script.evaluate table p t).outcome ≠ .failed := by
  constructor
  · intro clean
    exact (evaluate_closed callee clean).2
  · intro alive
    exact (readCall_alive table ⟨⟨p, t⟩, [], true⟩ [] (reads_of_isCallee callee) alive).2

end Script

end ScriptCheck
