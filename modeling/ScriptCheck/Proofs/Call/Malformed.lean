import ScriptCheck.Proofs.Call.Grammar
import ScriptCheck.Proofs.Run.Findings
import ScriptCheck.Proofs.Call.Provenance

/-! # Argument lists that cannot be read

What is wrong with the argument list of a call is said here without the reader: the list is in order up to some
position, and the token there does not go on with it (`Grammar.Breaks`). A call that does not derive from the grammar
is given up at such a position of the innermost call that is open there. That is the last thing that happens in it,
and it is reported once, however many calls are open (`Script.reading_evaluate`).
-/

namespace ScriptCheck

namespace Grammar

/-! ### Where a list goes wrong -/

/-- The argument list of the call at `c` is in order up to before position `j`, where this is expected. -/
def Awaits (ts : List Token) : Expected → Nat → Nat → Prop
  | .opening, c, j => j = c + 1
  | .first, c, j => j = c + 2
  | .argument, c, j => ∃ q, Derives ts .arguments (c + 2) q ∧ KindAt ts (q + 1) .comma ∧ j = q + 2
  | .separator, c, j => ∃ q, Derives ts .arguments (c + 2) q ∧ j = q + 1

/-- The call at `c` is the one at `i`, or it stands where an argument begins of a call that is open in it. -/
inductive Nested (ts : List Token) (i : Nat) : Nat → Prop
  | same : Nested ts i i
  | argument {p c : Nat} {expected : Expected} (around : Nested ts i p) (begins : expected.Begins)
      (awaits : Awaits ts expected p c) (callee : CalleeAt ts c) : Nested ts i c

/-- The argument list of the call is in order up to before position `j` and goes wrong there. -/
inductive Breaks (ts : List Token) (callee : Site) (j : Nat) : Problem → Prop
  /-- The statement ends inside the list. -/
  | unclosed {expected : Expected} (awaits : Awaits ts expected callee.position j)
      (ends : ∀ t, ts[j]? = some t → t.kind.endsStatement = true) :
      Breaks ts callee j (.unclosedCall callee.token.text)
  /-- Neither a comma nor the end of the list stands behind an argument. -/
  | separator {t : Token} (awaits : Awaits ts .separator callee.position j) (found : ts[j]? = some t)
      (goesOn : t.kind.endsStatement = false) (notComma : t.kind ≠ .comma) (notClose : t.kind ≠ .closeParen) :
      Breaks ts callee j (.expectedSeparator callee.token.text t.text)
  /-- No argument stands where one is due. Only behind the opening parenthesis may the list end instead. -/
  | argument {expected : Expected} {t : Token} (begins : expected.Begins)
      (awaits : Awaits ts expected callee.position j) (found : ts[j]? = some t)
      (goesOn : t.kind.endsStatement = false) (noValue : t.isValue = false)
      (notClose : t.kind = .closeParen → expected = .argument) :
      Breaks ts callee j (.expectedArgument callee.token.text t.text)

variable {ts : List Token} {phrase : Phrase} {expected : Expected} {c d i j p q e : Nat}

theorem Breaks.isMalformed {callee : Site} {problem : Problem} (breaks : Breaks ts callee j problem) :
    problem.isMalformed = true := by
  cases breaks <;> rfl

/-! ### Lists in order -/

private theorem Derives.le (derives : Derives ts phrase p e) : p ≤ e := by
  induction derives with
  | bare => omega
  | list _ _ _ ih => omega
  | nested _ ih | last _ ih => exact ih
  | single => exact Nat.le_refl _
  | more _ _ _ first rest => omega

/-- One more argument goes at the end of some arguments. -/
theorem Derives.snoc (args : Derives ts phrase p q) (list : phrase = .arguments)
    (comma : KindAt ts (q + 1) .comma) (arg : Derives ts .argument (q + 2) e) : Derives ts .arguments p e := by
  induction args with
  | bare | list | nested | single => cases list
  | last first => exact .more first comma (.last arg)
  | more first between _ _ ih => exact .more first between (ih rfl comma arg)

private theorem Awaits.pass (awaits : Awaits ts expected c p) (begins : expected.Begins)
    (arg : Derives ts .argument p q) :
    Awaits ts .separator c (q + 1) := by
  rcases begins with rfl | rfl
  · obtain rfl : p = c + 2 := awaits
    exact ⟨q, .last arg, rfl⟩
  · obtain ⟨last, args, comma, rfl⟩ := awaits
    exact ⟨q, args.snoc rfl comma arg, rfl⟩

private theorem Awaits.close (awaits : Awaits ts expected c p) (ends : expected.Ends) (callee : CalleeAt ts c)
    (closes : KindAt ts p .closeParen) : Derives ts .call c p := by
  rcases ends with rfl | rfl
  · obtain rfl : p = c + 2 := awaits
    exact .bare callee closes
  · obtain ⟨last, args, rfl⟩ := awaits
    exact .list callee args closes

/-! ### Callees in a list -/

private theorem not_calleeAt_of_kindAt {kind : Kind} (found : KindAt ts d kind) (noName : kind ≠ .identifier) :
    ¬ CalleeAt ts d := by
  rintro ⟨⟨t, read, name⟩, _⟩
  obtain ⟨u, same, rfl⟩ := found
  obtain rfl : t = u := by simpa [read] using same
  exact noName (Token.isName_iff.mp name).1

/-- Each callee among the tokens of a phrase begins a call. -/
theorem Derives.call_of_calleeAt (derives : Derives ts phrase p e) (behind : p ≤ d) (within : d ≤ e)
    (callee : CalleeAt ts d) : ∃ f, Derives ts .call d f := by
  induction derives with
  | @bare p first close =>
    obtain rfl | rfl | rfl : d = p ∨ d = p + 1 ∨ d = p + 2 := by omega
    · exact ⟨d + 2, .bare first close⟩
    · exact absurd callee (not_calleeAt_of_kindAt first.2 (by simp))
    · exact absurd callee (not_calleeAt_of_kindAt close (by simp))
  | @list p e first args close ih =>
    by_cases inside : p + 2 ≤ d ∧ d ≤ e
    · exact ih inside.1 inside.2
    obtain rfl | rfl | rfl : d = p ∨ d = p + 1 ∨ d = e + 1 := by omega
    · exact ⟨e + 1, .list first args close⟩
    · exact absurd callee (not_calleeAt_of_kindAt first.2 (by simp))
    · exact absurd callee (not_calleeAt_of_kindAt close (by simp))
  | nested _ ih | last _ ih => exact ih behind within
  | @single p _ single =>
    obtain rfl : d = p := by omega
    exact absurd callee single
  | @more p q e _ comma _ first rest =>
    by_cases inFirst : d ≤ q
    · exact first behind inFirst
    by_cases inRest : q + 2 ≤ d
    · exact rest inRest within
    obtain rfl : d = q + 1 := by omega
    exact absurd callee (not_calleeAt_of_kindAt comma (by simp))

/-- Each callee in the part of a list that is in order begins a call. -/
theorem Awaits.call_of_calleeAt (awaits : Awaits ts expected c j) (opens : KindAt ts (c + 1) .openParen)
    (behind : c < d) (before : d < j) (callee : CalleeAt ts d) : ∃ f, Derives ts .call d f := by
  have notOpening : d ≠ c + 1 := by
    rintro rfl
    exact not_calleeAt_of_kindAt opens (by simp) callee
  cases expected with
  | opening | first =>
    simp only [Awaits] at awaits
    omega
  | argument =>
    obtain ⟨q, args, comma, rfl⟩ := awaits
    have notComma : d ≠ q + 1 := by
      rintro rfl
      exact not_calleeAt_of_kindAt comma (by simp) callee
    exact args.call_of_calleeAt (by omega) (by omega) callee
  | separator =>
    obtain ⟨q, args, rfl⟩ := awaits
    exact args.call_of_calleeAt (by omega) (by omega) callee

private theorem Breaks.call_of_calleeAt {callee : Site} {problem : Problem} (breaks : Breaks ts callee j problem)
    (opens : KindAt ts (callee.position + 1) .openParen) (behind : callee.position < d) (before : d < j)
    (inner : CalleeAt ts d) : ∃ f, Derives ts .call d f := by
  cases breaks with
  | unclosed awaits | separator awaits | argument _ awaits => exact awaits.call_of_calleeAt opens behind before inner

private theorem Awaits.lt (awaits : Awaits ts expected c j) : c < j := by
  cases expected with
  | opening | first =>
    simp only [Awaits] at awaits
    omega
  | argument =>
    obtain ⟨q, args, _, rfl⟩ := awaits
    have := args.le
    omega
  | separator =>
    obtain ⟨q, args, rfl⟩ := awaits
    have := args.le
    omega

theorem Breaks.lt {callee : Site} {problem : Problem} (breaks : Breaks ts callee j problem) : callee.position < j := by
  cases breaks with
  | unclosed awaits | separator awaits | argument _ awaits => exact awaits.lt

theorem Nested.le (nested : Nested ts i c) : i ≤ c := by
  induction nested with
  | same => exact Nat.le_refl i
  | argument _ _ awaits _ ih => exact Nat.le_trans ih (Nat.le_of_lt awaits.lt)

end Grammar

/-! ### What does not concern argument lists -/

/-- No argument list is found that cannot be read. -/
def Event.Calm (events : List Event) : Prop :=
  ∀ finding ∈ events.filterMap Event.finding?, finding.problem.isMalformed = false

namespace Event

theorem calm_append {first second : List Event} : Calm (first ++ second) ↔ Calm first ∧ Calm second := by
  rw [Calm, List.filterMap_append, List.forall_mem_append, Calm, Calm]

theorem Clean.calm {events : List Event} (clean : Clean events) : Calm events := by
  rw [Calm, clean]
  exact List.forall_mem_nil _

theorem calm_reported {site : Site} {problem : Problem} (other : problem.isMalformed = false) :
    Calm [.reported ⟨site, problem⟩] := by
  simpa [Calm, finding?] using other

theorem OneOf.calm {site : Site} {P : Problem → Prop} {events : List Event} (one : OneOf site P events)
    (others : ∀ problem, P problem → problem.isMalformed = false) : Calm events :=
  fun finding member => others _ (one.forall_mem finding member).2

end Event

namespace Frame

private theorem calm_take (table : Table) (frame : Frame) (site : Site) : Event.Calm (frame.take table site).2 := by
  unfold take
  split
  · exact Event.Clean.calm rfl
  split
  · exact Event.Clean.calm rfl
  · exact Event.calm_reported rfl
  · exact Event.calm_reported rfl

private theorem calm_receive (frame : Frame) (callee : Site) (outcome : Outcome) :
    Event.Calm (frame.receive callee outcome).2 := by
  cases outcome with
  | value | failed => exact Event.Clean.calm rfl
  | void => exact Event.calm_reported rfl

private theorem calm_run (natives : Registry) (frame : Frame) (close : Nat) :
    Event.Calm (frame.run natives close).2 := by
  unfold run
  split
  · exact Event.calm_reported rfl
  split
  · exact Event.Clean.calm rfl
  split
  · simp [Event.Calm, Event.finding?, Problem.isMalformed]
  · exact Event.Clean.calm rfl

end Frame

namespace Script

open Grammar

variable {script : Script} {table : Table} {expected : Expected} {i j c position : Nat} {t : Token}

/-! ### The calls that are open -/

/-- The call of this callee is open at `position`, inside the call at `i`, with its list in order so far. -/
structure OpenAt (script : Script) (i : Nat) (expected : Expected) (position : Nat) (callee : Site) : Prop where
  read : script.tokens[callee.position]? = some callee.token
  opens : CalleeAt script.tokens callee.position
  nested : Nested script.tokens i callee.position
  awaits : Awaits script.tokens expected callee.position position

/-- Each open call stands where an argument begins of the call around it. -/
def OpenAll (script : Script) (i : Nat) : Expected → Nat → List Frame → Prop
  | _, _, [] => True
  | expected, position, frame :: below => script.OpenAt i expected position frame.callee ∧
      ∃ around : Expected, around.Begins ∧ script.OpenAll i around frame.callee.position below

/-- A reading inside the call at `i` has been given up at `j`, in the list of this callee: nothing happens afterwards,
and the check goes on where the statement ends. -/
structure Abandons (script : Script) (i : Nat) (result : CallResult) (callee : Site) (j : Nat) (problem : Problem) :
    Prop where
  read : script.tokens[callee.position]? = some callee.token
  opens : CalleeAt script.tokens callee.position
  nested : Nested script.tokens i callee.position
  breaks : Breaks script.tokens callee j problem
  inside : script.SameStatement i j
  close : result.close = none
  outcome : result.outcome = .failed
  resume : result.resume = statementEnd j (script.tokens.drop j)
  last : ∃ front, Event.Calm front ∧ result.events = front ++ [.reported ⟨callee, problem⟩]

theorem le_statementEnd (j : Nat) (ts : List Token) : j ≤ statementEnd j ts := Nat.le_add_right ..

/-- The callee stands before the position where the check goes on. -/
theorem Abandons.position_lt {result : CallResult} {callee : Site} {problem : Problem}
    (abandons : script.Abandons i result callee j problem) : callee.position < result.resume := by
  rw [abandons.resume]
  exact Nat.lt_of_lt_of_le abandons.breaks.lt (le_statementEnd ..)

/-- How a reading inside the call at `i` comes to its end. -/
inductive Reading (script : Script) (i : Nat) (result : CallResult) : Prop
  | closed {e : Nat} (close : result.close = some e) (calm : Event.Calm result.events)
  | abandoned {callee : Site} {j : Nat} {problem : Problem} (abandons : script.Abandons i result callee j problem)

private theorem Reading.meeting {result : CallResult} (reading : script.Reading i result) (callee : Nat) :
    script.Reading i (result.meeting callee) := by
  cases reading with
  | closed close calm => exact .closed close calm
  | abandoned abandons =>
    obtain ⟨read, name, nested, breaks, inside, close, outcome, resume, last⟩ := abandons
    exact .abandoned ⟨read, name, nested, breaks, inside, close, outcome, resume, last⟩

private theorem Reading.after {result : CallResult} (reading : script.Reading i result) {events : List Event}
    (calm : Event.Calm events) : script.Reading i (result.after events) := by
  cases reading with
  | closed close quiet => exact .closed close (Event.calm_append.mpr ⟨calm, quiet⟩)
  | abandoned abandons =>
    obtain ⟨read, name, nested, breaks, inside, close, outcome, resume, front, quiet, last⟩ := abandons
    refine .abandoned ⟨read, name, nested, breaks, inside, close, outcome, resume, events ++ front, ?_, ?_⟩
    · exact Event.calm_append.mpr ⟨calm, quiet⟩
    · rw [CallResult.after_events, last, List.append_assoc]

/-- The innermost open call is given up, and all calls around it with it. -/
theorem OpenAt.giveUp {top : Frame} {problem : Problem} (opened : script.OpenAt i expected position top.callee)
    (same : script.SameStatement i position) (breaks : Breaks script.tokens top.callee position problem) :
    script.Reading i (.abandoned top problem position (script.tokens.drop position)) :=
  .abandoned ⟨opened.read, opened.opens, opened.nested, breaks, same, rfl, rfl, rfl, [], Event.Clean.calm rfl, rfl⟩

private theorem OpenAt.pass {callee : Site} {e : Nat} (opened : script.OpenAt i expected position callee)
    (begins : expected.Begins) (arg : Derives script.tokens .argument position e) :
    script.OpenAt i .separator (e + 1) callee :=
  ⟨opened.read, opened.opens, opened.nested, opened.awaits.pass begins arg⟩

/-- What is read inside the call at `i` is closed, or it is given up where the innermost open list goes wrong. -/
theorem reading_readCall (table : Table) {ts : List Token} {position : Nat} {expected : Expected} (top : Frame)
    (below : List Frame) (reads : script.Reads position expected ts) (same : script.SameStatement i position)
    (opened : script.OpenAll i expected position (top :: below)) :
    script.Reading i (readCall script.natives table ts position expected top below) := by
  fun_induction readCall script.natives table ts position expected top below with
  | case1 position expected top below =>
    have none : script.tokens[position]? = none := by
      rw [← List.head?_drop, reads.rest_eq]
      rfl
    rw [← reads.rest_eq]
    exact opened.1.giveUp same (.unclosed opened.1.awaits fun t found => by simp [none] at found)
  | case2 t rest position expected top below ends =>
    have found := reads.found
    rw [← reads.rest_eq]
    refine opened.1.giveUp same (.unclosed opened.1.awaits fun u other => ?_)
    obtain rfl : t = u := by simpa [found] using other
    exact ends
  | case3 t rest position top below inside ih =>
    obtain ⟨u, found, kind⟩ := reads.opening rfl
    obtain rfl : t = u := by simpa [reads.found] using found
    obtain ⟨⟨read, opens, nested, awaits⟩, around⟩ := opened
    obtain rfl : position = top.callee.position + 1 := awaits
    exact ih (reads.begin (.inl kind) (by simp)) (same.next found (by simpa using inside))
      ⟨⟨read, opens, nested, rfl⟩, around⟩
  | case4 t rest position expected top inside notOpening closing ran =>
    exact .closed rfl (Frame.calm_run script.natives top position)
  | case5 t rest position expected top inside notOpening closing ran parent others heard ih =>
    -- The call that is closed here is an argument of the call around it, whose list goes on.
    obtain ⟨inner, around, begins, outer, further⟩ := opened
    have call : Derives script.tokens .call top.callee.position position :=
      inner.awaits.close (Expected.ends_of_ne notOpening closing.2) inner.opens ⟨t, reads.found, closing.1⟩
    have heardAt : heard.1.callee = parent.callee := Frame.receive_callee ..
    refine (ih reads.separator (same.next reads.found (by simpa using inside)) ?_).after
      (Event.calm_append.mpr ⟨Frame.calm_run script.natives top position, parent.calm_receive top.callee ran.1⟩)
    rw [OpenAll, heardAt]
    exact ⟨outer.pass begins (.nested call), further⟩
  | case6 t rest position top below inside comma notOpening notClosing ih =>
    obtain ⟨⟨read, opens, nested, q, args, here⟩, around⟩ := opened
    subst here
    exact ih (reads.begin (.inr comma) (by simp)) (same.next reads.found (by simpa using inside))
      ⟨⟨read, opens, nested, q, args, ⟨t, reads.found, comma⟩, rfl⟩, around⟩
  | case7 t rest position top below inside notComma notOpening notClosing =>
    have found := reads.found
    rw [← reads.rest_eq]
    exact opened.1.giveUp same (.separator opened.1.awaits found (by simpa using inside) notComma
      fun kind => notClosing ⟨kind, by simp⟩)
  | case8 t rest position expected top below inside notOpening notClosing notSeparator calls ih =>
    rw [reads.opensCall] at calls
    have begins := Expected.begins_of_ne notOpening notSeparator
    have callee := calleeAt_iff.mpr calls
    -- A call is opened where an argument begins, and the calls around it stay open.
    have fresh : script.OpenAt i .opening (position + 1) ⟨position, t⟩ :=
      ⟨reads.found, callee, .argument opened.1.nested begins opened.1.awaits callee, rfl⟩
    exact (ih (reads.nested calls) (same.next reads.found (by simpa using inside))
      ⟨fresh, expected, begins, opened⟩).meeting position
  | case9 t rest position expected top below inside notOpening notClosing notSeparator single value taken ih =>
    rw [reads.opensCall] at single
    have begins := Expected.begins_of_ne notOpening notSeparator
    have kind : t.kind = .identifier ∨ t.kind = .stringLiteral := by
      simpa [Token.isValue, Kind.isValue] using value
    have arg : Derives script.tokens .argument position position :=
      .single (kind.imp (fun kind => ⟨t, reads.found, kind⟩) fun kind => ⟨t, reads.found, kind⟩)
        (by simpa [calleeAt_iff] using single)
    have takenAt : taken.1.callee = top.callee := Frame.take_callee ..
    refine (ih reads.separator (same.next reads.found (by simpa using inside)) ?_).after
      (top.calm_take table ⟨position, t⟩)
    rw [OpenAll, takenAt]
    exact ⟨opened.1.pass begins arg, opened.2⟩
  | case10 t rest position expected top below inside notOpening notClosing notSeparator single noValue =>
    have found := reads.found
    rw [← reads.rest_eq]
    exact opened.1.giveUp same (.argument (Expected.begins_of_ne notOpening notSeparator) opened.1.awaits found
      (by simpa using inside) (by simpa using noValue) fun kind => by_contra fun other => notClosing ⟨kind, other⟩)

/-- A call is read to its end, or it is given up where the innermost open list goes wrong. -/
theorem reading_evaluate (callee : script.isCallee i = true) (read : script.tokens[i]? = some t) (table : Table) :
    script.Reading i (script.evaluate table i t) := by
  have opened : script.OpenAt i .first (i + 2) ⟨i, t⟩ := ⟨read, calleeAt_iff.mpr callee, .same, rfl⟩
  exact (reading_readCall table ⟨⟨i, t⟩, [], true⟩ [] (reads_of_isCallee callee) (.behind_callee callee)
    ⟨opened, .first, .inl rfl, trivial⟩).meeting i

/-! ### The innermost malformed call -/

/-- A call that is no call of the grammar is given up. -/
theorem close_evaluate_eq_none_iff (table : Table) (t : Token) (callee : script.isCallee c = true) :
    (script.evaluate table c t).close = none ↔ ¬ ∃ e, Derives script.tokens .call c e := by
  rw [Option.eq_none_iff_forall_ne_some]
  simp only [ne_eq, close_evaluate table t callee, not_exists]

/-- A list is read as far as it is in order. -/
theorem close_evaluate_of_awaits (table : Table) (t : Token) (awaits : Awaits script.tokens expected c j)
    (behind : expected ≠ .opening) : ∃ frame, (script.evaluate table c t).close =
      (readCall script.natives table (script.tokens.drop j) j expected frame []).close := by
  cases expected with
  | opening => exact absurd rfl behind
  | first =>
    obtain rfl : j = c + 2 := awaits
    exact ⟨_, rfl⟩
  | separator =>
    obtain ⟨q, args, rfl⟩ := awaits
    exact close_readCall_of_derives table args ⟨⟨c, t⟩, [], true⟩ [] (.inl rfl)
  | argument =>
    obtain ⟨q, args, ⟨u, read, kind⟩, rfl⟩ := awaits
    obtain ⟨frame, passed⟩ := close_readCall_of_derives table args ⟨⟨c, t⟩, [], true⟩ [] (.inl rfl)
    refine ⟨frame, passed.trans ?_⟩
    rw [drop_of_getElem? read, readCall_comma kind]

/-- Where a list goes wrong the reader gives up. -/
theorem close_readCall_of_breaks {callee : Site} {problem : Problem} (breaks : Breaks script.tokens callee j problem)
    (opens : CalleeAt script.tokens callee.position) : ∃ expected : Expected, expected ≠ .opening ∧
      Awaits script.tokens expected callee.position j ∧ ∀ table frame,
        (readCall script.natives table (script.tokens.drop j) j expected frame []).close = none := by
  cases breaks with
  | @unclosed expected awaits ends =>
    refine ⟨expected, ?_, awaits, ?_⟩
    · rintro rfl
      obtain rfl : j = callee.position + 1 := awaits
      obtain ⟨u, next, kind⟩ := opens.2
      simpa [kind, Kind.endsStatement, Kind.isScope] using ends u next
    · intro table frame
      cases found : script.tokens[j]? with
      | none => simp [List.drop_eq_nil_of_le (List.getElem?_eq_none_iff.mp found), readCall, CallResult.abandoned]
      | some u => simp [drop_of_getElem? found, readCall, CallResult.abandoned, ends u found]
  | separator awaits found goesOn notComma notClose =>
    refine ⟨.separator, by simp, awaits, fun table frame => ?_⟩
    rw [drop_of_getElem? found]
    simp [readCall, CallResult.abandoned, goesOn, notComma, notClose]
  | @argument expected u begins awaits found goesOn noValue notClose =>
    refine ⟨expected, begins.ne_opening, awaits, fun table frame => ?_⟩
    have single : opensCall u script.tokens[j + 1]? = false := by
      apply Bool.eq_false_iff.mpr
      intro calls
      rw [Token.isValue_of_isName (opensCall_iff.mp calls).1] at noValue
      cases noValue
    have notSeparator : expected ≠ .separator := by rcases begins with rfl | rfl <;> simp
    have notClosing : ¬ (u.kind = .closeParen ∧ ¬ expected = .argument) := by
      rintro ⟨kind, notArgument⟩
      exact notArgument (notClose kind)
    rw [drop_of_getElem? found]
    simp [readCall, CallResult.abandoned, goesOn, begins.ne_opening, notSeparator, single, noValue, notClosing]

/-- So the call is none of the grammar. -/
theorem not_derives_of_breaks {callee : Site} {problem : Problem} (breaks : Breaks script.tokens callee j problem)
    (opens : CalleeAt script.tokens callee.position) :
    ¬ ∃ e, Derives script.tokens .call callee.position e := by
  obtain ⟨expected, behind, awaits, stops⟩ := close_readCall_of_breaks breaks opens
  obtain ⟨frame, same⟩ := close_evaluate_of_awaits {} callee.token awaits behind
  apply (close_evaluate_eq_none_iff {} callee.token (calleeAt_iff.mp opens)).mp
  exact same.trans (stops {} frame)

/-- The call at `c` is the innermost of those around position `j`, the call at `i` being the outermost: it is
malformed, and the calls in its list are not. -/
structure Innermost (script : Script) (i c j : Nat) : Prop where
  nested : Nested script.tokens i c
  malformed : ¬ ∃ e, Derives script.tokens .call c e
  others : ∀ d, c < d → d < j → script.isCallee d = true → ∃ e, Derives script.tokens .call d e

theorem Abandons.innermost {result : CallResult} {callee : Site} {problem : Problem}
    (abandons : script.Abandons i result callee j problem) : script.Innermost i callee.position j := by
  refine ⟨abandons.nested, not_derives_of_breaks abandons.breaks abandons.opens, ?_⟩
  intro d behind before inner
  exact abandons.breaks.call_of_calleeAt abandons.opens.2 behind before (calleeAt_iff.mpr inner)

end Script

end ScriptCheck
