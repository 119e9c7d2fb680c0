import ScriptCheck.Proofs.Call.Nesting

/-! # The calls made by one call

Evaluating a call makes the calls in its argument list first, in the order of their closing parentheses
(`Script.ordered_evaluate`). Every callee up to its closing parenthesis is noted, and stands where an
argument begins (`Script.covers_evaluate`).
-/

namespace ScriptCheck

@[simp] theorem Event.invocation?_called (call : Invocation) :
    (Event.called call).invocation? = some call := rfl

@[simp] theorem Event.invocation?_reported (finding : Finding) :
    (Event.reported finding).invocation? = none := rfl

/-- The calls of some events are those that reach the registry. -/
theorem Event.mem_invocations_iff {events : List Event} {call : Invocation} :
    call ∈ events.filterMap invocation? ↔ .called call ∈ events := by
  rw [List.mem_filterMap]
  constructor
  · rintro ⟨event, member, same⟩
    cases event with
    | called other =>
      obtain rfl := Option.some.inj same
      exact member
    | declared | stored | folded | reported => cases same
  · exact fun member => ⟨_, member, rfl⟩

/-- Taking a single argument makes no call. -/
@[simp] theorem Frame.invocations_take (table : Table) (frame : Frame) (site : Site) :
    (frame.take table site).2.filterMap Event.invocation? = [] := by
  unfold Frame.take
  split
  · rfl
  · split <;> rfl

/-- Taking the outcome of a nested call makes no further call. -/
@[simp] theorem Frame.invocations_receive (frame : Frame) (site : Site) (outcome : Outcome) :
    (frame.receive site outcome).2.filterMap Event.invocation? = [] := by
  cases outcome <;> rfl

/-- Running a call reaches the registry at most once, for that call. -/
theorem Frame.invocations_run (natives : Registry) (frame : Frame) (close : Nat) :
    (frame.run natives close).2.filterMap Event.invocation? = [] ∨
      ∃ call : Invocation, (frame.run natives close).2.filterMap Event.invocation? = [call] ∧
        call.callee = frame.callee ∧ call.close = close := by
  unfold Frame.run
  split
  · exact .inl rfl
  split
  · exact .inl rfl
  · right
    split
    · exact ⟨_, rfl, rfl, rfl⟩
    · exact ⟨_, rfl, rfl, rfl⟩

namespace CallResult

def invocations (result : CallResult) : List Invocation :=
  result.events.filterMap Event.invocation?

@[simp] theorem invocations_after (events : List Event) (result : CallResult) :
    (result.after events).invocations =
      events.filterMap Event.invocation? ++ result.invocations := by
  simp [invocations]

@[simp] theorem invocations_abandoned (frame : Frame) (problem : Problem) (position : Nat)
    (rest : List Token) : (abandoned frame problem position rest).invocations = [] := rfl

/-- Calls are made in the order of their closing parentheses, which lie from `position` on and up to
the closing parenthesis of the whole call or to where the check goes on. -/
structure Ordered (position : Nat) (result : CallResult) : Prop where
  increasing : (result.invocations.map (·.close)).Pairwise (· < ·)
  from_position : ∀ call ∈ result.invocations, position ≤ call.close
  up_to_close : ∀ e, result.close = some e →
    position ≤ e ∧ ∀ call ∈ result.invocations, call.close ≤ e
  up_to_resume : result.close = none →
    position ≤ result.resume ∧ ∀ call ∈ result.invocations, call.close < result.resume

namespace Ordered

variable {position : Nat} {result : CallResult}

private theorem abandoned (frame : Frame) (problem : Problem) (position : Nat) (rest : List Token) :
    Ordered position (.abandoned frame problem position rest) where
  increasing := List.Pairwise.nil
  from_position := by simp
  up_to_close := by
    intro e closed
    cases closed
  up_to_resume _ := ⟨Nat.le_add_right .., by simp⟩

private theorem weaken (ordered : Ordered (position + 1) result) : Ordered position result where
  increasing := ordered.increasing
  from_position call member := Nat.le_of_succ_le (ordered.from_position call member)
  up_to_close e closed :=
    ⟨Nat.le_of_succ_le (ordered.up_to_close e closed).1, (ordered.up_to_close e closed).2⟩
  up_to_resume gone :=
    ⟨Nat.le_of_succ_le (ordered.up_to_resume gone).1, (ordered.up_to_resume gone).2⟩

/-- Events that make no call play no part. -/
theorem after {events : List Event} (silent : events.filterMap Event.invocation? = [])
    (ordered : Ordered position result) : Ordered position (result.after events) := by
  have same : (result.after events).invocations = result.invocations := by
    rw [invocations_after, silent, List.nil_append]
  exact ⟨same ▸ ordered.increasing, same ▸ ordered.from_position, same ▸ ordered.up_to_close,
    same ▸ ordered.up_to_resume⟩

/-- A call that closes at `position` comes before the calls behind it. -/
theorem after_call {events : List Event} {first : Invocation}
    (made : events.filterMap Event.invocation? = [first]) (closes : first.close = position)
    (ordered : Ordered (position + 1) result) : Ordered position (result.after events) := by
  have same : (result.after events).invocations = first :: result.invocations := by
    rw [invocations_after, made, List.singleton_append]
  refine ⟨?_, ?_, ?_, ?_⟩
  · rw [same, List.map_cons, List.pairwise_cons]
    refine ⟨?_, ordered.increasing⟩
    intro close member
    obtain ⟨later, within, rfl⟩ := List.mem_map.mp member
    have := ordered.from_position later within
    omega
  · rw [same, List.forall_mem_cons]
    exact ⟨Nat.le_of_eq closes.symm, ordered.weaken.from_position⟩
  · intro e closed
    have bound := ordered.up_to_close e closed
    rw [same, List.forall_mem_cons]
    exact ⟨by omega, by omega, bound.2⟩
  · intro abandoned
    have bound := ordered.up_to_resume abandoned
    rw [same, List.forall_mem_cons]
    exact ⟨by rw [after_resume]; omega, by rw [after_resume]; omega, bound.2⟩

end Ordered

end CallResult

namespace Script

/-- Running a frame that closes at `position`, before what is read behind it. -/
private theorem ordered_after_run {script : Script} {position : Nat} {result : CallResult}
    (top : Frame) {events : List Event} (silent : events.filterMap Event.invocation? = [])
    (ordered : CallResult.Ordered (position + 1) result) :
    CallResult.Ordered position
      (result.after ((top.run script.natives position).2 ++ events)) := by
  rcases top.invocations_run script.natives position with none | ⟨call, made, _, closes⟩
  · exact ordered.weaken.after (by rw [List.filterMap_append, none, silent, List.nil_append])
  · exact ordered.after_call (by rw [List.filterMap_append, made, silent, List.append_nil]) closes

private theorem ordered_readCall {script : Script} (table : Table) {ts : List Token} {position : Nat}
    {expected : Expected} (top : Frame) (below : List Frame)
    (reads : script.Reads position expected ts) : CallResult.Ordered position
      (readCall script.natives table ts position expected top below) := by
  refine script.reading_induct table (motive := fun position _ _ _ result =>
    CallResult.Ordered position result) ?giveUp ?opening ?close ?closeInner ?comma ?callee ?value
    top below reads
  case giveUp =>
    intro position _ top _ problem _
    exact .abandoned top problem position _
  case opening =>
    intro _ _ _ _ _ _ _ ih
    exact ih.weaken
  case close =>
    intro _ position _ top _ _ _
    have only : ∀ call ∈ (top.run script.natives position).2.filterMap Event.invocation?,
        call.close = position := by
      rcases top.invocations_run script.natives position with none | ⟨call, made, _, closes⟩
      · simp [none]
      · simpa [made] using closes
    refine ⟨?_, fun call member => Nat.le_of_eq (only call member).symm, ?_, by simp⟩
    · rcases top.invocations_run script.natives position with none | ⟨call, made, _, _⟩
      · simp [CallResult.invocations, none]
      · simp [CallResult.invocations, made]
    · intro e closed
      obtain rfl : position = e := Option.some.inj closed
      exact ⟨Nat.le_refl _, fun call member => Nat.le_of_eq (only call member)⟩
  case closeInner =>
    intro _ _ _ top parent _ _ _ _ _ ih
    exact ordered_after_run top (parent.invocations_receive _ _) ih
  case comma =>
    intro _ _ _ _ _ _ _ ih
    exact ih.weaken
  case callee =>
    intro _ _ _ _ _ _ _ _ _ _ ih
    exact ⟨ih.weaken.increasing, ih.weaken.from_position, ih.weaken.up_to_close,
      ih.weaken.up_to_resume⟩
  case value =>
    intro _ _ _ top _ _ _ _ _ _ _ ih
    exact ih.weaken.after (top.invocations_take _ _)

/-- The calls made by a call are made in the order of their closing parentheses. -/
theorem ordered_evaluate {script : Script} {p : Nat} (table : Table) (t : Token)
    (callee : script.isCallee p = true) :
    CallResult.Ordered (p + 2) (script.evaluate table p t) := by
  have ordered := ordered_readCall table ⟨⟨p, t⟩, [], true⟩ [] (reads_of_isCallee callee)
  exact ⟨ordered.increasing, ordered.from_position, ordered.up_to_close, ordered.up_to_resume⟩

/-! ### The callees that are met -/

theorem not_isCallee_of_kind {script : Script} {p : Nat} {t : Token}
    (read : script.tokens[p]? = some t) (kind : t.kind ≠ .identifier) : ¬ script.isCallee p = true := by
  intro callee
  exact kind (Token.isName_iff.mp (isName_of_isCallee callee read)).1

/-- A reading that closes its call notes every callee on the way. Each of them begins an argument. -/
theorem covers_readCall {script : Script} (table : Table) {ts : List Token} {position : Nat}
    {expected : Expected} (top : Frame) (below : List Frame)
    (reads : script.Reads position expected ts) :
    ∀ e, (readCall script.natives table ts position expected top below).close = some e →
      ∀ j, position ≤ j → j ≤ e → script.isCallee j = true →
        j ∈ (readCall script.natives table ts position expected top below).callees ∧
          script.BeginsArgument j := by
  -- What is read at `position` is no callee, so a callee from there on stands behind it.
  have behind : ∀ {position j : Nat} {t : Token}, script.tokens[position]? = some t →
      t.kind ≠ .identifier → position ≤ j → script.isCallee j = true → position + 1 ≤ j := by
    intro position j t read kind before callee
    rcases Nat.eq_or_lt_of_le before with rfl | before
    · exact absurd callee (not_isCallee_of_kind read kind)
    · exact before
  refine script.reading_induct table (motive := fun position _ _ _ result =>
    ∀ e, result.close = some e → ∀ j, position ≤ j → j ≤ e → script.isCallee j = true →
      j ∈ result.callees ∧ script.BeginsArgument j) ?giveUp ?opening ?close ?closeInner ?comma ?callee
    ?value top below reads
  case giveUp =>
    intro _ _ _ _ _ _ _ closed
    cases closed
  case opening =>
    intro _ _ _ _ _ read kind ih e closed j before within callee
    exact ih e closed j (behind read (by simp [kind]) before callee) within callee
  case close =>
    intro _ position _ _ read kind _ e closed j before within callee
    obtain rfl : position = e := Option.some.inj closed
    have := behind read (by simp [kind]) before callee
    omega
  case closeInner =>
    intro _ _ _ _ _ _ _ read kind _ ih e closed j before within callee
    exact ih e closed j (behind read (by simp [kind]) before callee) within callee
  case comma =>
    intro _ _ _ _ _ read kind ih e closed j before within callee
    exact ih e closed j (behind read (by simp [kind]) before callee) within callee
  case callee =>
    intro _ _ _ _ _ _ _ _ begins _ ih e closed j before within callee
    rcases Nat.eq_or_lt_of_le before with rfl | before
    · exact ⟨List.mem_cons_self .., begins⟩
    · obtain ⟨noted, starts⟩ := ih e closed j before within callee
      exact ⟨List.mem_cons_of_mem _ noted, starts⟩
  case value =>
    intro _ position _ _ _ _ _ _ single _ _ ih e closed j before within callee
    rcases Nat.eq_or_lt_of_le before with rfl | before
    · simp [single] at callee
    · exact ih e closed j before within callee

/-- A call that is closed has noted every callee up to its closing parenthesis. Behind the first one,
each of them begins an argument. -/
theorem covers_evaluate {script : Script} {table : Table} {p e : Nat} {t : Token}
    (callee : script.isCallee p = true) (closed : (script.evaluate table p t).close = some e) {j : Nat}
    (behind : p < j) (within : j ≤ e) (calls : script.isCallee j = true) :
    j ∈ (script.evaluate table p t).callees ∧ script.BeginsArgument j := by
  obtain ⟨_, u, _, _, next, kind⟩ := isCallee_iff.mp callee
  have notOpening : j ≠ p + 1 := by
    rintro rfl
    exact absurd calls (not_isCallee_of_kind next (by simp [kind]))
  obtain ⟨noted, begins⟩ := covers_readCall table ⟨⟨p, t⟩, [], true⟩ [] (reads_of_isCallee callee) e
    closed j (by omega) within calls
  exact ⟨List.mem_cons_of_mem _ noted, begins⟩

/-! ### The parentheses of the calls -/

/-- The call is that of a callee of the script, and closes at the matching parenthesis. -/
def Delimits (script : Script) (call : Invocation) : Prop :=
  script.tokens[call.callee.position]? = some call.callee.token ∧
    script.isCallee call.callee.position = true ∧
    script.Matches (call.callee.position + 1) call.close

private theorem delimits_run {script : Script} {position : Nat} {top : Frame} {t : Token}
    (opened : script.Opened 1 position top) (read : script.tokens[position]? = some t)
    (kind : t.kind = .closeParen) :
    ∀ call ∈ (top.run script.natives position).2.filterMap Event.invocation?,
      script.Delimits call := by
  rcases top.invocations_run script.natives position with none | ⟨call, made, same, closes⟩
  · simp [none]
  · rw [made]
    intro only member
    obtain rfl := List.mem_singleton.mp member
    rw [Delimits, same, closes]
    exact ⟨opened.callee, opened.calls, opened.closes read kind⟩

private theorem delimits_readCall {script : Script} (table : Table) {ts : List Token} {position : Nat}
    {expected : Expected} (top : Frame) (below : List Frame)
    (reads : script.Reads position expected ts) :
    script.OpenedAll position (if expected = .opening then 0 else 1) (top :: below) →
      ∀ call ∈ (readCall script.natives table ts position expected top below).invocations,
        script.Delimits call := by
  refine script.reading_induct table (motive := fun position expected top below result =>
    script.OpenedAll position (if expected = .opening then 0 else 1) (top :: below) →
      ∀ call ∈ result.invocations, script.Delimits call) ?giveUp ?opening ?close ?closeInner ?comma
    ?callee ?value top below reads
  case giveUp =>
    intro _ _ _ _ _ _ _ call member
    cases member
  case opening =>
    intro _ _ _ _ _ read kind ih opened
    exact ih (opened.next read 1 (by simp [kind, Kind.paren]) (by simp))
  case close =>
    intro _ _ _ _ read kind ends opened
    rw [if_neg ends.ne_opening] at opened
    exact delimits_run opened.1 read kind
  case closeInner =>
    intro _ _ _ top parent others _ read kind ends ih opened call member
    rw [if_neg ends.ne_opening] at opened
    rw [CallResult.invocations_after, List.filterMap_append, Frame.invocations_receive,
      List.append_nil, List.mem_append] at member
    rcases member with member | member
    · exact delimits_run opened.1 read kind call member
    · have around := opened.2.next read 1 (by simp [kind, Kind.paren]) (by simp)
      exact ih ⟨around.1.congr (parent.receive_callee _ _), around.2⟩ call member
  case comma =>
    intro _ _ _ _ _ read kind ih opened
    exact ih (opened.next read 1 (by simp [kind, Kind.paren]) (by simp))
  case callee =>
    intro t _ _ _ _ _ read calls _ begins ih opened
    rw [if_neg begins.ne_opening] at opened
    have light := Token.paren_of_isValue (Token.isValue_of_isName (isName_of_isCallee calls read))
    exact ih ⟨.met read calls, opened.next read 1 (by simp [light]) (by simp)⟩
  case value =>
    intro _ _ _ top _ _ read isValue _ _ begins ih opened call member
    rw [if_neg begins.ne_opening] at opened
    rw [CallResult.invocations_after, Frame.invocations_take, List.nil_append] at member
    have inside := opened.next read 1
      (by simp [Token.paren_of_isValue isValue]) (by simp)
    exact ih ⟨inside.1.congr (top.take_callee _ _), inside.2⟩ call member

/-- Every call made by a call closes at the parenthesis that matches its opening one. -/
theorem delimits_evaluate {script : Script} {table : Table} {p : Nat} {t : Token}
    (read : script.tokens[p]? = some t) (callee : script.isCallee p = true) :
    ∀ call ∈ (script.evaluate table p t).invocations, script.Delimits call := by
  obtain ⟨_, u, _, _, next, kind⟩ := isCallee_iff.mp callee
  have opened : script.Opened 1 (p + 2) ⟨⟨p, t⟩, [], true⟩ :=
    (Opened.met read callee).next next 1 (by simp [kind, Kind.paren]) (by simp)
  exact delimits_readCall table _ [] (reads_of_isCallee callee) ⟨opened, trivial⟩

end Script

end ScriptCheck
