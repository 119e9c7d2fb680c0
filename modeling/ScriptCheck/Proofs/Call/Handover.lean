import ScriptCheck.Proofs.Call.Nested
import ScriptCheck.Proofs.Call.Grammar
import ScriptCheck.Proofs.Call.Ran

/-! # Handing a call over to the calls around it

The reader of calls keeps the open calls on a stack. The calls at the bottom play no part before those above them are
closed, so a reading falls in two: the one that closes or gives up the calls above, and the one that goes on behind
them (`Script.readCall_append`). What the first one leaves is enough to go on from: a closing parenthesis behind where
it began, or the end of the statement at which every call around it is given up too (`Script.reached_readCall`).
-/

namespace ScriptCheck

/-- The callee of the lowest of some open calls. -/
def lowestCallee (top : Frame) : List Frame → Site
  | [] => top.callee
  | parent :: others => lowestCallee parent others

/-- What a call has gathered plays no part. -/
private theorem lowestCallee_congr {first second : Frame} (same : first.callee = second.callee) (below : List Frame) :
    lowestCallee first below = lowestCallee second below := by
  cases below with
  | nil => exact same
  | cons => rfl

namespace Script

variable {script : Script} {table : Table} {position : Nat} {expected : Expected} {ts : List Token}

/-- Goes on behind a call with the calls around it. A call that was given up takes them all with it. -/
def handOver (script : Script) (table : Table) (callee : Site) (result : CallResult) : List Frame → CallResult
  | [] => result
  | parent :: others =>
    match result.close with
    | none => result
    | some e =>
      let heard := parent.receive callee result.outcome
      (readCall script.natives table (script.tokens.drop (e + 1)) (e + 1) .separator heard.1 others).following
        ⟨heard.1, result.events ++ heard.2, result.callees⟩

private theorem handOver_after (callee : Site) (events : List Event) (result : CallResult) (outer : List Frame) :
    script.handOver table callee (result.after events) outer =
      (script.handOver table callee result outer).after events := by
  cases outer with
  | nil => rfl
  | cons parent others =>
    obtain ⟨outcome, close, _, _, _⟩ := result
    cases close with
    | none => rfl
    | some => simp [handOver, CallResult.after, CallResult.following]

theorem handOver_meeting (callee : Site) (position : Nat) (result : CallResult) (outer : List Frame) :
    script.handOver table callee (result.meeting position) outer =
      (script.handOver table callee result outer).meeting position := by
  cases outer with
  | nil => rfl
  | cons parent others =>
    obtain ⟨outcome, close, _, _, _⟩ := result
    cases close with
    | none => rfl
    | some => simp [handOver, CallResult.meeting, CallResult.following]

/-- What is read inside some open calls is handed over to the calls around them. -/
theorem readCall_append (table : Table) (outer : List Frame) (top : Frame) (below : List Frame)
    (reads : script.Reads position expected ts) :
    readCall script.natives table ts position expected top (below ++ outer) =
      script.handOver table (lowestCallee top below)
        (readCall script.natives table ts position expected top below) outer := by
  fun_induction readCall script.natives table ts position expected top below with
  | case1 => cases outer <;> rfl
  | case2 t rest position expected top below ends =>
    rw [readCall, if_pos ends]
    cases outer <;> rfl
  | case3 t rest position top below inside ih =>
    obtain ⟨u, found, kind⟩ := reads.opening rfl
    obtain rfl : t = u := by simpa [reads.found] using found
    rw [readCall_opening kind]
    exact ih (reads.begin (.inl kind) (by simp))
  | case4 t rest position expected top inside notOpening closing ran =>
    -- The call that is closed here is the outermost on the right only.
    cases outer with
    | nil => exact readCall_close closing.1 (Expected.ends_of_ne notOpening closing.2)
    | cons parent others =>
      rw [List.nil_append, readCall_closeInner closing.1 (Expected.ends_of_ne notOpening closing.2), ← reads.tail]
      rfl
  | case5 t rest position expected top inside notOpening closing ran parent others heard ih =>
    rw [List.cons_append, readCall_closeInner closing.1 (Expected.ends_of_ne notOpening closing.2), handOver_after,
      ih reads.separator, lowestCallee, lowestCallee_congr (Frame.receive_callee ..)]
  | case6 t rest position top below inside comma notOpening notClosing ih =>
    rw [readCall_comma comma]
    exact ih (reads.begin (.inr comma) (by simp))
  | case7 t rest position top below inside notComma notOpening notClosing =>
    rw [readCall, if_neg inside, if_neg notOpening, if_neg notClosing, if_pos rfl, if_neg notComma]
    cases outer <;> rfl
  | case8 t rest position expected top below inside notOpening notClosing notSeparator calls ih =>
    have nested := reads.nested (reads.opensCall ▸ calls)
    rw [readCall_callee calls (Expected.begins_of_ne notOpening notSeparator), ← List.cons_append, ih nested,
      handOver_meeting]
    rfl
  | case9 t rest position expected top below inside notOpening notClosing notSeparator single value taken ih =>
    rw [readCall_value value (Expected.begins_of_ne notOpening notSeparator) (by simpa using single),
      handOver_after, ih reads.separator, lowestCallee_congr (Frame.take_callee ..)]
  | case10 t rest position expected top below inside notOpening notClosing notSeparator single noValue =>
    rw [readCall, if_neg inside, if_neg notOpening, if_neg notClosing, if_neg notSeparator, if_neg single,
      if_neg noValue]
    cases outer <;> rfl

/-! ### Where a reading leaves off -/

/-- Where the check goes on if a call is given up at position `j`: the end of the statement, or that of the script. -/
def abandonEnd (script : Script) (j : Nat) : Nat :=
  match (script.tokens.drop j).findIdx? fun t => t.kind.endsStatement with
  | some k => j + k
  | none => script.size

private theorem abandonEnd_le (script : Script) (j : Nat) : script.abandonEnd j ≤ script.size := by
  unfold abandonEnd
  split
  next k found =>
    have inside := (List.findIdx?_eq_some_iff_findIdx_eq.mp found).1
    rw [List.length_drop] at inside
    unfold size
    omega
  next => exact Nat.le_refl _

/-- A token that ends no statement is skipped. -/
theorem abandonEnd_succ {j : Nat} {t : Token} (read : script.tokens[j]? = some t)
    (inside : t.kind.endsStatement = false) : script.abandonEnd (j + 1) = script.abandonEnd j := by
  rw [abandonEnd, abandonEnd, drop_of_getElem? read, List.findIdx?_cons, inside, if_neg (by simp)]
  cases (script.tokens.drop (j + 1)).findIdx? fun t => t.kind.endsStatement with
  | none => rfl
  | some k => exact (Nat.add_right_comm j k 1).symm

/-- Inside of the script, the reader skips as many tokens. -/
theorem statementEnd_eq_abandonEnd {j : Nat} (inside : j ≤ script.size) :
    statementEnd j (script.tokens.drop j) = script.abandonEnd j := by
  have skipped : statementEnd j (script.tokens.drop j) =
      j + (script.tokens.drop j).findIdx fun t => t.kind.endsStatement := by
    rw [statementEnd, List.takeWhile_eq_take_findIdx_not, List.length_take]
    simp only [Bool.not_not, Nat.min_eq_left List.findIdx_le_length]
  rw [skipped, abandonEnd]
  split
  next k found => rw [(List.findIdx?_eq_some_iff_findIdx_eq.mp found).2]
  next none =>
    rw [List.findIdx?_eq_none_iff_findIdx_eq.mp none, List.length_drop]
    exact Nat.add_sub_cancel' inside

/-- What a reading from position `j` on comes to: it ends at a closing parenthesis of the same statement and skips
nothing, or it is given up and skips what is left of the statement. -/
structure Reached (script : Script) (j : Nat) (result : CallResult) : Prop where
  closed : ∀ e, result.close = some e →
    j ≤ e ∧ e < script.size ∧ script.abandonEnd (e + 1) = script.abandonEnd j ∧ result.resume = 0
  abandoned : result.close = none → result.outcome = .failed ∧ result.resume = script.abandonEnd j

namespace Reached

variable {j : Nat} {t : Token} {result : CallResult}

private theorem after (reached : script.Reached j result) (events : List Event) :
    script.Reached j (result.after events) :=
  ⟨reached.closed, reached.abandoned⟩

private theorem meeting (reached : script.Reached j result) (callee : Nat) : script.Reached j (result.meeting callee) :=
  ⟨reached.closed, reached.abandoned⟩

/-- The token before may be one that ends no statement. -/
private theorem back (reached : script.Reached (j + 1) result) (read : script.tokens[j]? = some t)
    (inside : t.kind.endsStatement = false) : script.Reached j result := by
  have same := abandonEnd_succ read inside
  constructor
  · intro e closed
    obtain ⟨behind, within, ends, resume⟩ := reached.closed e closed
    exact ⟨by omega, within, ends.trans same, resume⟩
  · intro abandoned
    obtain ⟨outcome, resume⟩ := reached.abandoned abandoned
    exact ⟨outcome, resume.trans same⟩

theorem within (reached : script.Reached j result) {e : Nat} (closed : result.close = some e) :
    j ≤ e ∧ e < script.size :=
  ⟨(reached.closed e closed).1, (reached.closed e closed).2.1⟩

/-- Nothing is skipped beyond the script. -/
theorem resume_le (reached : script.Reached j result) : result.resume ≤ script.size := by
  cases close : result.close with
  | none =>
    rw [(reached.abandoned close).2]
    exact script.abandonEnd_le j
  | some e =>
    rw [(reached.closed e close).2.2.2]
    exact Nat.zero_le _

end Reached

theorem reached_readCall (table : Table) (top : Frame) (below : List Frame)
    (reads : script.Reads position expected ts) (inside : position ≤ script.size) :
    script.Reached position (readCall script.natives table ts position expected top below) := by
  have lt : ∀ {p : Nat} {t : Token}, script.tokens[p]? = some t → p + 1 ≤ script.size :=
    fun found => (List.getElem?_eq_some_iff.mp found).1
  refine script.reading_induct table (motive := fun position _ _ _ result =>
    position ≤ script.size → script.Reached position result) ?giveUp ?opening ?close ?closeInner ?comma ?callee ?value
    top below reads inside
  case giveUp =>
    intro position _ _ _ _ _ inside
    refine ⟨fun _ closed => ?_, fun _ => ⟨rfl, statementEnd_eq_abandonEnd inside⟩⟩
    cases closed
  case opening =>
    intro _ _ _ _ _ found kind ih _
    exact (ih (lt found)).back found (by rw [kind]; rfl)
  case close =>
    intro _ position _ _ found kind _ _
    refine ⟨fun e closed => ?_, fun abandoned => ?_⟩
    · obtain rfl : position = e := Option.some.inj closed
      exact ⟨Nat.le_refl _, lt found, abandonEnd_succ found (by rw [kind]; rfl), rfl⟩
    · cases abandoned
  case closeInner =>
    intro _ _ _ _ _ _ _ found kind _ ih _
    exact ((ih (lt found)).back found (by rw [kind]; rfl)).after _
  case comma =>
    intro _ _ _ _ _ found kind ih _
    exact (ih (lt found)).back found (by rw [kind]; rfl)
  case callee =>
    intro _ _ _ _ _ _ found calls _ _ ih _
    have name := isName_of_isCallee calls found
    exact ((ih (lt found)).back found
      (Token.not_endsStatement_of_isValue (Token.isValue_of_isName name))).meeting _
  case value =>
    intro _ _ _ _ _ _ found isValue _ _ _ ih _
    exact ((ih (lt found)).back found (Token.not_endsStatement_of_isValue isValue)).after _

/-- A call ends behind its opening parenthesis and inside the script, or is given up with what is left of its
statement. -/
theorem reached_evaluate {p : Nat} (table : Table) (t : Token) (callee : script.isCallee p = true) :
    script.Reached (p + 2) (script.evaluate table p t) := by
  obtain ⟨_, _, _, _, next, _⟩ := isCallee_iff.mp callee
  have inside : p + 2 ≤ script.size := (List.getElem?_eq_some_iff.mp next).1
  exact (reached_readCall table _ [] (reads_of_isCallee callee) inside).meeting p

end Script

end ScriptCheck
