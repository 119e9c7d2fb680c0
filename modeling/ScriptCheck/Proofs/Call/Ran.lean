import ScriptCheck.Proofs.Call.Clean
import ScriptCheck.Proofs.Call.Order

/-! # The functions that a call runs

A call whose evaluation finds nothing wrong runs the function of every callee that is met on the way, its own
included (`Script.ran_evaluate`). The callees that a call runs besides its own stand where an argument begins
(`Script.callee_of_mem_evaluate`).
-/

namespace ScriptCheck

/-- The function of the call was run: its reply is the one that the registry gives to the arguments. -/
def Invocation.Ran (natives : Registry) (call : Invocation) : Prop :=
  ∃ reply, call.reply = some reply ∧ natives.call call.callee.token.text call.args = .ok reply

/-- A complete call that finds nothing wrong runs its function. -/
theorem Frame.exists_ran {natives : Registry} {frame : Frame} {position : Nat}
    (complete : frame.complete = true) (clean : Event.Clean (frame.run natives position).2) :
    ∃ call ∈ (frame.run natives position).2.filterMap Event.invocation?,
      call.callee = frame.callee ∧ call.Ran natives := by
  unfold run at clean ⊢
  split
  · rename_i missing
    rw [if_pos missing] at clean
    exact (Event.not_clean_reported _ _ clean).elim
  · rename_i known
    rw [if_neg known] at clean
    simp only [complete, Bool.not_true, Bool.false_eq_true, if_false] at clean ⊢
    split at clean
    · exact (Event.not_clean_reported _ _ clean).elim
    · rename_i reply replied
      exact ⟨_, List.mem_singleton.mpr rfl, rfl, reply, rfl, replied⟩

/-- Among the calls made is one of this callee whose function was run. -/
def CallResult.Runs (natives : Registry) (result : CallResult) (callee : Site) : Prop :=
  ∃ call ∈ result.invocations, call.callee = callee ∧ call.Ran natives

private theorem CallResult.Runs.after {natives : Registry} {result : CallResult} {callee : Site}
    (runs : result.Runs natives callee) (events : List Event) :
    (result.after events).Runs natives callee := by
  obtain ⟨call, member, same, ran⟩ := runs
  refine ⟨call, ?_, same, ran⟩
  rw [invocations_after]
  exact List.mem_append_right _ member

namespace Script

variable {script : Script} {p : Nat} {t : Token}

/-- A reading without a finding runs the open calls and every callee that it meets. -/
theorem ran_readCall (table : Table) {ts : List Token} {position : Nat} {expected : Expected}
    (top : Frame) (below : List Frame) (reads : script.Reads position expected ts) :
    (∀ frame ∈ top :: below, frame.complete = true) →
      Event.Clean (readCall script.natives table ts position expected top below).events →
      (∀ frame ∈ top :: below, (readCall script.natives table ts position expected top below).Runs
        script.natives frame.callee) ∧
      ∀ c ∈ (readCall script.natives table ts position expected top below).callees,
        ∃ u, script.tokens[c]? = some u ∧
          (readCall script.natives table ts position expected top below).Runs script.natives ⟨c, u⟩ := by
  refine script.reading_induct table (motive := fun _ _ top below result =>
    (∀ frame ∈ top :: below, frame.complete = true) → Event.Clean result.events →
      (∀ frame ∈ top :: below, result.Runs script.natives frame.callee) ∧
      ∀ c ∈ result.callees, ∃ u, script.tokens[c]? = some u ∧ result.Runs script.natives ⟨c, u⟩)
    ?giveUp ?opening ?close ?closeInner ?comma ?callee ?value top below reads
  case giveUp =>
    intro _ _ _ _ _ _ _ clean
    exact (Event.not_clean_reported _ _ clean).elim
  case opening =>
    intro _ _ _ _ _ _ _ ih
    exact ih
  case close =>
    intro _ _ _ top _ _ _ complete clean
    refine ⟨?_, by simp⟩
    intro frame member
    obtain rfl := List.mem_singleton.mp member
    exact Frame.exists_ran (complete frame (by simp)) clean
  case closeInner =>
    intro _ position _ top parent others result _ _ _ ih complete clean
    simp only [CallResult.after_events, Event.clean_append] at clean
    simp only [List.forall_mem_cons] at complete
    have ran := Frame.exists_ran complete.1 clean.1.1
    obtain ⟨value, _, received⟩ := Frame.receive_clean complete.1 clean.1.1 clean.1.2
    obtain ⟨around, met⟩ := ih (by
      rw [received]
      simp only [List.forall_mem_cons]
      exact ⟨complete.2.1, complete.2.2⟩) clean.2
    simp only [List.forall_mem_cons, Frame.receive_callee] at around ⊢
    refine ⟨⟨?_, around.1.after _, fun frame member => (around.2 frame member).after _⟩, ?_⟩
    · obtain ⟨call, member, same, runs⟩ := ran
      refine ⟨call, ?_, same, runs⟩
      rw [CallResult.invocations_after, List.filterMap_append]
      exact List.mem_append_left _ (List.mem_append_left _ member)
    · intro c member
      obtain ⟨u, found, runs⟩ := met c member
      exact ⟨u, found, runs.after _⟩
  case comma =>
    intro _ _ _ _ _ _ _ ih
    exact ih
  case callee =>
    intro u position _ top below _ read _ _ _ ih complete clean
    obtain ⟨around, met⟩ := ih (by simpa using complete) clean
    rw [List.forall_mem_cons] at around
    refine ⟨around.2, ?_⟩
    intro c member
    rcases List.mem_cons.mp member with rfl | later
    · exact ⟨u, read, around.1⟩
    · exact met c later
  case value =>
    intro _ _ _ top _ _ _ _ _ _ _ ih complete clean
    simp only [CallResult.after_events, Event.clean_append] at clean
    obtain ⟨value, _, taken⟩ := Frame.take_clean clean.1
    obtain ⟨around, met⟩ := ih (by
      rw [taken]
      simp only [List.forall_mem_cons] at complete ⊢
      exact complete) clean.2
    simp only [List.forall_mem_cons, Frame.take_callee] at around ⊢
    refine ⟨⟨around.1.after _, fun frame member => (around.2 frame member).after _⟩, ?_⟩
    intro c member
    obtain ⟨u, found, runs⟩ := met c member
    exact ⟨u, found, runs.after _⟩

/-- A call without a finding runs its own function and those of all callees that it meets. -/
theorem ran_evaluate {table : Table} (read : script.tokens[p]? = some t)
    (callee : script.isCallee p = true) (clean : Event.Clean (script.evaluate table p t).events) :
    ∀ c ∈ (script.evaluate table p t).callees, ∃ u, script.tokens[c]? = some u ∧
      (script.evaluate table p t).Runs script.natives ⟨c, u⟩ := by
  obtain ⟨own, met⟩ := ran_readCall table ⟨⟨p, t⟩, [], true⟩ [] (reads_of_isCallee callee) (by simp)
    clean
  intro c member
  rcases List.mem_cons.mp member with rfl | later
  · exact ⟨t, read, own _ (List.mem_cons_self ..)⟩
  · exact met c later

/-- The callees that a reading runs are those of the open calls, and others that begin an argument. -/
theorem callee_of_mem_readCall (table : Table) {ts : List Token} {position : Nat}
    {expected : Expected} (top : Frame) (below : List Frame)
    (reads : script.Reads position expected ts) :
    ∀ call ∈ (readCall script.natives table ts position expected top below).invocations,
      (∃ frame ∈ top :: below, call.callee = frame.callee) ∨
        script.BeginsArgument call.callee.position := by
  have ofRun : ∀ {position : Nat} {top : Frame} {below : List Frame} {call : Invocation},
      call ∈ (top.run script.natives position).2.filterMap Event.invocation? →
        ∃ frame ∈ top :: below, call.callee = frame.callee := by
    intro position top below call member
    rcases top.invocations_run script.natives position with none | ⟨only, made, same, _⟩
    · simp [none] at member
    · rw [made, List.mem_singleton] at member
      exact ⟨top, List.mem_cons_self .., member ▸ same⟩
  refine script.reading_induct table (motive := fun _ _ top below result =>
    ∀ call ∈ result.invocations, (∃ frame ∈ top :: below, call.callee = frame.callee) ∨
      script.BeginsArgument call.callee.position) ?giveUp ?opening ?close ?closeInner ?comma ?callee
    ?value top below reads
  case giveUp =>
    intro _ _ _ _ _ _ call member
    cases member
  case opening =>
    intro _ _ _ _ _ _ _ ih
    exact ih
  case close =>
    intro _ _ _ _ _ _ _ call member
    exact .inl (ofRun member)
  case closeInner =>
    intro _ _ _ _ parent others _ _ _ _ ih call member
    rw [CallResult.invocations_after, List.filterMap_append, Frame.invocations_receive,
      List.append_nil, List.mem_append] at member
    rcases member with member | member
    · exact .inl (ofRun member)
    · rcases ih call member with ⟨frame, within, same⟩ | begins
      · left
        rcases List.mem_cons.mp within with rfl | within
        · exact ⟨parent, by simp, by rw [same, Frame.receive_callee]⟩
        · exact ⟨frame, by simp [within], same⟩
      · exact .inr begins
  case comma =>
    intro _ _ _ _ _ _ _ ih
    exact ih
  case callee =>
    intro _ _ _ _ _ _ _ _ begins _ ih call member
    rcases ih call member with ⟨frame, within, same⟩ | inner
    · rcases List.mem_cons.mp within with rfl | within
      · right
        rw [same]
        exact begins
      · exact .inl ⟨frame, within, same⟩
    · exact .inr inner
  case value =>
    intro _ _ _ top below _ _ _ _ _ _ ih call member
    rw [CallResult.invocations_after, Frame.invocations_take, List.nil_append] at member
    rcases ih call member with ⟨frame, within, same⟩ | begins
    · left
      rcases List.mem_cons.mp within with rfl | within
      · exact ⟨top, by simp, by rw [same, Frame.take_callee]⟩
      · exact ⟨frame, by simp [within], same⟩
    · exact .inr begins

/-- The callees that a call runs are its own and others that begin an argument. -/
theorem callee_of_mem_evaluate {table : Table} (callee : script.isCallee p = true) {call : Invocation}
    (member : call ∈ (script.evaluate table p t).invocations) :
    call.callee.position = p ∨ script.BeginsArgument call.callee.position := by
  rcases callee_of_mem_readCall table ⟨⟨p, t⟩, [], true⟩ [] (reads_of_isCallee callee) call member with
    ⟨frame, within, same⟩ | begins
  · obtain rfl := List.mem_singleton.mp within
    exact .inl (by rw [same])
  · exact .inr begins

/-- A reading that closes its call skips nothing. -/
theorem resume_readCall_of_close (table : Table) {ts : List Token} {position : Nat}
    {expected : Expected} (top : Frame) (below : List Frame)
    (reads : script.Reads position expected ts) :
    (readCall script.natives table ts position expected top below).close.isSome →
      (readCall script.natives table ts position expected top below).resume = 0 := by
  refine script.reading_induct table (motive := fun _ _ _ _ result =>
    result.close.isSome → result.resume = 0) ?giveUp ?opening ?close ?closeInner ?comma ?callee ?value
    top below reads
  case giveUp =>
    intro _ _ _ _ _ _ closed
    cases closed
  case close =>
    intro _ _ _ _ _ _ _ _
    rfl
  case opening | comma =>
    intro _ _ _ _ _ _ _ ih
    exact ih
  case closeInner =>
    intro _ _ _ _ _ _ _ _ _ _ ih
    exact ih
  case callee =>
    intro _ _ _ _ _ _ _ _ _ _ ih
    exact ih
  case value =>
    intro _ _ _ _ _ _ _ _ _ _ _ ih
    exact ih

/-- A call without a finding skips nothing. -/
theorem resume_evaluate_of_clean {table : Table} (callee : script.isCallee p = true)
    (clean : Event.Clean (script.evaluate table p t).events) :
    (script.evaluate table p t).resume = 0 := by
  obtain ⟨⟨e, closed⟩, _⟩ := evaluate_closed callee clean
  exact resume_readCall_of_close table ⟨⟨p, t⟩, [], true⟩ [] (reads_of_isCallee callee)
    (Option.isSome_iff_exists.mpr ⟨e, closed⟩)

end Script

end ScriptCheck
