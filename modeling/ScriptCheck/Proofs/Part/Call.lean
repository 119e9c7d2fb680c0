import ScriptCheck.Report

/-! # Calls that stand elsewhere

The reader of calls looks at the tokens that it reads and at nothing else, so a call that stands `n` tokens
further on is read in the same way, `n` positions later. And it reads no further than to the end of the
statement: what stands behind that end has no part in the call (`readCall_shift`).
-/

namespace ScriptCheck

/-! ### What happens at another position -/

/-- The same token, `n` positions later. -/
def Site.shift (n : Nat) (site : Site) : Site := ⟨n + site.position, site.token⟩

def Finding.shift (n : Nat) (finding : Finding) : Finding := ⟨finding.site.shift n, finding.problem⟩

def Invocation.shift (n : Nat) (call : Invocation) : Invocation :=
  ⟨call.callee.shift n, n + call.close, call.args, call.reply⟩

def Frame.shift (n : Nat) (frame : Frame) : Frame :=
  ⟨frame.callee.shift n, frame.args, frame.complete⟩

def Event.shift (n : Nat) : Event → Event
  | declared site type => declared (site.shift n) type
  | stored site target value => stored (site.shift n) target value
  | folded site target operator result => folded (site.shift n) target operator result
  | called call => called (call.shift n)
  | reported finding => reported (finding.shift n)

theorem Event.finding?_shift (n : Nat) (event : Event) :
    (event.shift n).finding? = event.finding?.map (Finding.shift n) := by
  cases event <;> rfl

@[simp] theorem Event.operations_shift (n : Nat) (event : Event) :
    (event.shift n).operations = event.operations := by
  cases event <;> rfl

namespace Frame

variable (n : Nat) (frame : Frame)

private theorem take_shift (table : Table) (site : Site) :
    (frame.shift n).take table (site.shift n) =
      ((frame.take table site).1.shift n, (frame.take table site).2.map (Event.shift n)) := by
  simp only [take, Site.shift]
  split
  · rfl
  · split <;> rfl

private theorem receive_shift (callee : Site) (outcome : Outcome) :
    (frame.shift n).receive (callee.shift n) outcome =
      ((frame.receive callee outcome).1.shift n,
        (frame.receive callee outcome).2.map (Event.shift n)) := by
  cases outcome <;> rfl

private theorem run_shift (natives : Registry) (close : Nat) :
    (frame.shift n).run natives (n + close) =
      ((frame.run natives close).1, (frame.run natives close).2.map (Event.shift n)) := by
  have name : (frame.shift n).name = frame.name := rfl
  have args : (frame.shift n).args = frame.args := rfl
  have complete : (frame.shift n).complete = frame.complete := rfl
  simp only [run, name, args, complete]
  split
  · rfl
  · split
    · rfl
    · split <;> rfl

end Frame

/-! ### A call at another position -/

namespace CallResult

/-- The call has come to the same, `n` positions later. A call that was not given up skips nothing, wherever
it stands, so the positions before which tokens are skipped agree behind `n` only. -/
structure Shifted (n : Nat) (later first : CallResult) : Prop where
  outcome : later.outcome = first.outcome
  close : later.close = first.close.map (n + ·)
  events : later.events = first.events.map (Event.shift n)
  callees : later.callees = first.callees.map (n + ·)
  resume : later.resume - n = first.resume

variable {n : Nat} {later first : CallResult}

private theorem Shifted.after (shifted : Shifted n later first) (events : List Event) :
    Shifted n (later.after (events.map (Event.shift n))) (first.after events) := by
  refine ⟨shifted.outcome, shifted.close, ?_, shifted.callees, shifted.resume⟩
  change events.map (Event.shift n) ++ later.events = (events ++ first.events).map (Event.shift n)
  rw [List.map_append, shifted.events]

theorem Shifted.meeting (shifted : Shifted n later first) (callee : Nat) :
    Shifted n (later.meeting (n + callee)) (first.meeting callee) := by
  refine ⟨shifted.outcome, shifted.close, shifted.events, ?_, shifted.resume⟩
  change (n + callee) :: later.callees = (callee :: first.callees).map (n + ·)
  rw [List.map_cons, shifted.callees]

end CallResult

/-- The tokens `ts` end a statement, unless nothing stands behind them. -/
def Sealed (ts behind : List Token) : Prop :=
  behind = [] ∨ ∃ t ∈ ts, t.kind.endsStatement = true

namespace Sealed

variable {t : Token} {ts behind : List Token}

private theorem tail (closed : Sealed (t :: ts) behind) (inside : t.kind.endsStatement = false) :
    Sealed ts behind := by
  rcases closed with nothing | ⟨u, member, ends⟩
  · exact .inl nothing
  · rcases List.mem_cons.mp member with rfl | later
    · simp [inside] at ends
    · exact .inr ⟨u, later, ends⟩

private theorem head? (closed : Sealed ts behind) : (ts ++ behind).head? = ts.head? := by
  cases ts with
  | cons => rfl
  | nil =>
    rcases closed with rfl | ⟨_, member, _⟩
    · rfl
    · cases member

private theorem statementEnd (closed : Sealed ts behind) (n i : Nat) :
    Script.statementEnd (n + i) (ts ++ behind) = n + Script.statementEnd i ts := by
  have same : (ts ++ behind).takeWhile (fun t => !t.kind.endsStatement) =
      ts.takeWhile fun t => !t.kind.endsStatement := by
    induction ts with
    | nil =>
      rcases closed with rfl | ⟨_, member, _⟩
      · rfl
      · cases member
    | cons t ts ih =>
      cases ends : t.kind.endsStatement with
      | true => simp [ends]
      | false => simp [ends, ih (closed.tail ends)]
  rw [Script.statementEnd, Script.statementEnd, same, Nat.add_assoc]

end Sealed

/-- A call that is given up is given up in the same way at another position. -/
theorem CallResult.shifted_abandoned {ts behind : List Token} (closed : Sealed ts behind) (n : Nat)
    (frame : Frame) (problem : Problem) (position : Nat) :
    Shifted n (abandoned (frame.shift n) problem (n + position) (ts ++ behind))
      (abandoned frame problem position ts) := by
  refine ⟨rfl, rfl, rfl, rfl, ?_⟩
  change Script.statementEnd (n + position) (ts ++ behind) - n = Script.statementEnd position ts
  rw [closed.statementEnd, Nat.add_sub_cancel_left]

/-- A reading comes to the same `n` positions later, whatever stands behind the end of the statement. -/
theorem readCall_shift {ts behind : List Token} (natives : Registry) (table : Table)
    (closed : Sealed ts behind) (n position : Nat) (expected : Expected) (top : Frame)
    (below : List Frame) :
    CallResult.Shifted n
      (readCall natives table (ts ++ behind) (n + position) expected (top.shift n)
        (below.map (Frame.shift n)))
      (readCall natives table ts position expected top below) := by
  fun_induction readCall natives table ts position expected top below with
  | case1 position expected top below =>
    obtain rfl : behind = [] := by simpa [Sealed] using closed
    exact CallResult.shifted_abandoned closed n top _ position
  | case2 t rest position expected top below ends =>
    rw [List.cons_append, readCall, if_pos ends]
    exact CallResult.shifted_abandoned closed n top _ position
  | case3 t rest position top below inside ih =>
    rw [List.cons_append, readCall, if_neg inside, if_pos rfl]
    exact ih (closed.tail (by simpa using inside))
  | case4 t rest position expected top inside notOpening closing =>
    rw [List.cons_append, readCall, if_neg inside, if_neg notOpening, if_pos closing]
    simp only [Frame.run_shift, List.map_nil]
    exact ⟨rfl, rfl, rfl, rfl, Nat.zero_sub n⟩
  | case5 t rest position expected top inside notOpening closing ran parent others heard ih =>
    rw [List.cons_append, readCall, if_neg inside, if_neg notOpening, if_pos closing]
    have later := (ih (closed.tail (by simpa using inside))).after (ran.2 ++ heard.2)
    rw [List.map_append] at later
    have inner : (top.shift n).run natives (n + position) = (ran.1, ran.2.map (Event.shift n)) :=
      top.run_shift n natives position
    have outer : (parent.shift n).receive (top.shift n).callee ran.1 =
        (heard.1.shift n, heard.2.map (Event.shift n)) := parent.receive_shift n top.callee ran.1
    simp only [List.map_cons, inner, outer]
    exact later
  | case6 t rest position top below inside comma notOpening notClosing ih =>
    rw [List.cons_append, readCall, if_neg inside, if_neg notOpening, if_neg notClosing, if_pos rfl,
      if_pos comma]
    exact ih (closed.tail (by simpa using inside))
  | case7 t rest position top below inside notComma notOpening notClosing =>
    rw [List.cons_append, readCall, if_neg inside, if_neg notOpening, if_neg notClosing, if_pos rfl,
      if_neg notComma]
    exact CallResult.shifted_abandoned closed n top _ position
  | case8 t rest position expected top below inside notOpening notClosing notSeparator calls ih =>
    have onward := closed.tail (by simpa using inside)
    rw [List.cons_append, readCall, if_neg inside, if_neg notOpening, if_neg notClosing,
      if_neg notSeparator, onward.head?, if_pos calls]
    exact (ih onward).meeting position
  | case9 t rest position expected top below inside notOpening notClosing notSeparator single value taken
      ih =>
    have onward := closed.tail (by simpa using inside)
    rw [List.cons_append, readCall, if_neg inside, if_neg notOpening, if_neg notClosing,
      if_neg notSeparator, onward.head?, if_neg single, if_pos value]
    have same : (top.shift n).take table ⟨n + position, t⟩ =
        (taken.1.shift n, taken.2.map (Event.shift n)) := top.take_shift n table ⟨position, t⟩
    simp only [same]
    exact (ih onward).after taken.2
  | case10 t rest position expected top below inside notOpening notClosing notSeparator single notValue =>
    have onward := closed.tail (by simpa using inside)
    rw [List.cons_append, readCall, if_neg inside, if_neg notOpening, if_neg notClosing,
      if_neg notSeparator, onward.head?, if_neg single, if_neg notValue]
    exact CallResult.shifted_abandoned closed n top _ position

end ScriptCheck
