import ScriptCheck.Proofs.Call.Term

/-! # Calls among the arguments of a call

The reader of calls works on a stack, so a call that stands among the arguments of another one is not evaluated
for itself. What happens on its behalf is nevertheless what happens when it is evaluated alone: the calls around
it play no part before it is closed (`events_prefix_readCall`), so its events stand in one piece among those of
the call around it (`Script.events_infix_evaluate`).
-/

namespace ScriptCheck

@[simp] theorem CallResult.meeting_events (callee : Nat) (result : CallResult) :
    (result.meeting callee).events = result.events := rfl

/-- What is read inside some open calls is read alike with more calls around them, as far as it goes. -/
theorem events_prefix_readCall (natives : Registry) (table : Table) (outer : List Frame) (ts : List Token)
    (position : Nat) (expected : Expected) (top : Frame) (below : List Frame) :
    (readCall natives table ts position expected top below).events <+:
      (readCall natives table ts position expected top (below ++ outer)).events := by
  fun_induction readCall natives table ts position expected top below with
  | case1 => exact List.prefix_refl _
  | case2 t rest position expected top below ends =>
    simp only [readCall, if_pos ends, List.prefix_rfl]
  | case3 t rest position top below inside ih =>
    rw [readCall, if_neg inside, if_pos rfl]
    exact ih
  | case4 t rest position expected top inside notOpening closing ran =>
    rw [List.nil_append, readCall, if_neg inside, if_neg notOpening, if_pos closing]
    -- The call that is closed here is the outermost on the left only.
    cases outer with
    | nil => exact List.prefix_refl _
    | cons parent others =>
      rw [CallResult.after_events, List.append_assoc]
      exact List.prefix_append ..
  | case5 t rest position expected top inside notOpening closing ran parent others heard ih =>
    rw [List.cons_append, readCall, if_neg inside, if_neg notOpening, if_pos closing]
    exact (List.prefix_append_right_inj _).mpr ih
  | case6 t rest position top below inside comma notOpening notClosing ih =>
    rw [readCall, if_neg inside, if_neg notOpening, if_neg notClosing, if_pos rfl, if_pos comma]
    exact ih
  | case7 t rest position top below inside notComma notOpening notClosing =>
    simp only [readCall, if_neg inside, if_neg notOpening, if_neg notClosing, if_pos, if_neg notComma,
      List.prefix_rfl]
  | case8 t rest position expected top below inside notOpening notClosing notSeparator calls ih =>
    rw [readCall, if_neg inside, if_neg notOpening, if_neg notClosing, if_neg notSeparator, if_pos calls]
    exact ih
  | case9 t rest position expected top below inside notOpening notClosing notSeparator single value taken ih =>
    rw [readCall, if_neg inside, if_neg notOpening, if_neg notClosing, if_neg notSeparator, if_neg single,
      if_pos value]
    exact (List.prefix_append_right_inj _).mpr ih
  | case10 t rest position expected top below inside notOpening notClosing notSeparator single noValue =>
    simp only [readCall, if_neg inside, if_neg notOpening, if_neg notClosing, if_neg notSeparator, if_neg single,
      if_neg noValue, List.prefix_rfl]

namespace Script

variable {script : Script} {table : Table} {p : Nat} {t : Token}

/-- A callee in an argument list is read as a call of its own, as far as it goes. -/
theorem events_prefix_of_callee (callee : script.isCallee p = true) (frames : List Frame) :
    (script.evaluate table p t).events <+:
      (readCall script.natives table (script.tokens.drop (p + 1)) (p + 1) .opening ⟨⟨p, t⟩, [], true⟩
        frames).events := by
  obtain ⟨_, u, _, _, next, kind⟩ := isCallee_iff.mp callee
  obtain ⟨inside, rfl⟩ := List.getElem?_eq_some_iff.mp next
  rw [List.drop_eq_getElem_cons inside, readCall_opening kind]
  exact events_prefix_readCall script.natives table frames _ _ _ _ []

/-- A reading evaluates every callee that it meets. -/
theorem events_infix_readCall (table : Table) {ts : List Token} {position : Nat} {expected : Expected}
    (top : Frame) (below : List Frame) (reads : script.Reads position expected ts) :
    ∀ c ∈ (readCall script.natives table ts position expected top below).callees, ∀ u,
      script.tokens[c]? = some u → (script.evaluate table c u).events <:+:
        (readCall script.natives table ts position expected top below).events := by
  fun_induction readCall script.natives table ts position expected top below with
  | case1 | case2 | case4 | case7 | case10 =>
    intro c member
    cases member
  | case3 t rest position top below inside ih =>
    obtain ⟨u, found, kind⟩ := reads.opening rfl
    obtain rfl : t = u := by simpa [reads.found] using found
    exact ih (reads.begin (.inl kind) (by simp))
  | case5 t rest position expected top inside notOpening closing ran parent others heard ih =>
    intro c member u found
    exact (ih reads.separator c member u found).trans (List.suffix_append ..).isInfix
  | case6 t rest position top below inside comma notOpening notClosing ih =>
    exact ih (reads.begin (.inr comma) (by simp))
  | case8 t rest position expected top below inside notOpening notClosing notSeparator calls ih =>
    rw [reads.opensCall] at calls
    intro c member u found
    rcases List.mem_cons.mp member with rfl | later
    · obtain rfl : t = u := by simpa [reads.found] using found
      rw [← reads.tail]
      exact (events_prefix_of_callee calls (top :: below)).isInfix
    · exact ih (reads.nested calls) c later u found
  | case9 t rest position expected top below inside notOpening notClosing notSeparator single value taken ih =>
    intro c member u found
    exact (ih reads.separator c member u found).trans (List.suffix_append ..).isInfix

/-- Evaluating a call evaluates every callee that is met on the way, in one piece. -/
theorem events_infix_evaluate (read : script.tokens[p]? = some t) (callee : script.isCallee p = true) :
    ∀ c ∈ (script.evaluate table p t).callees, ∀ u, script.tokens[c]? = some u →
      (script.evaluate table c u).events <:+: (script.evaluate table p t).events := by
  intro c member u found
  rcases List.mem_cons.mp member with rfl | later
  · obtain rfl : t = u := by simpa [read] using found
    exact List.infix_rfl
  · exact events_infix_readCall table ⟨⟨p, t⟩, [], true⟩ [] (reads_of_isCallee callee) c later u found

end Script

end ScriptCheck
