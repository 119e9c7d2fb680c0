import ScriptCheck.Proofs.Call.Defined
import ScriptCheck.Proofs.Call.Grammar
import ScriptCheck.Proofs.Call.Nested
import ScriptCheck.Proofs.Call.Outcome
import ScriptCheck.Native.Builtin

/-! # The function of a call

A call runs its function exactly once if it is written to its end, every variable in it can be reached, every call
among its arguments gives a value, and the function exists and accepts the values. Otherwise it does not run it
(`Script.evaluate_spec`). A call that is written to its end is a term, and passing a term keeps the call around it
complete only where nothing is found wrong.
-/

namespace ScriptCheck

private theorem Event.not_clean_iff {events : List Event} :
    ¬ Clean events ↔ ∃ finding, .reported finding ∈ events := by
  constructor
  · intro unclean
    obtain ⟨finding, found⟩ := List.exists_mem_of_ne_nil _ unclean
    exact ⟨finding, mem_findings_iff.mp found⟩
  · rintro ⟨finding, member⟩ clean
    cases List.filterMap_eq_nil_iff.mp clean _ member

/-- The values of the arguments of a call, if each of them has one. A single value has no arguments. -/
def Term.arguments? (natives : Registry) (table : Table) : Term → Option (List Value)
  | .single _ _ => none
  | .bare _ _ _ _ => some []
  | .call _ _ _ args _ => args.values? natives table

/-! ### Running the function of one call -/

/-- A closed call runs its function exactly where all its arguments have a value and the function is there and
accepts them. -/
theorem Frame.ran_iff {natives : Registry} {frame : Frame} {close : Nat} {call : Invocation} :
    call ∈ (frame.run natives close).2.filterMap Event.invocation? ∧ call.reply.isSome = true ↔
      frame.complete = true ∧ ∃ native, natives.find? frame.name = some native ∧
        native.check frame.args = .ok () ∧
        call = ⟨frame.callee, close, frame.args, some (native.body frame.args)⟩ := by
  unfold run
  cases found : natives.find? frame.name with
  | none => simp [Registry.has, found]
  | some native =>
    cases complete : frame.complete with
    | false => simp [Registry.has, found]
    | true =>
      cases accepted : native.check frame.args with
      | error error =>
        have refused : ⟨frame.callee, close, frame.args, none⟩ = call → call.reply = none := by
          rintro rfl
          rfl
        simpa [Registry.has, Registry.call, Native.call, found, accepted] using refused
      | ok => simp +contextual [Registry.has, Registry.call, Native.call, found, accepted]

/-! ### Passing a term -/

variable {natives : Registry} {table : Table}

mutual

private theorem Term.pass_callee (term : Term) (position : Nat) (frame : Frame) :
    (term.pass natives table position frame).frame.callee = frame.callee := by
  cases term with
  | single t _ => exact Frame.take_callee ..
  | bare | call => exact Frame.receive_callee ..

private theorem Arguments.pass_callee (args : Arguments) (position : Nat) (frame : Frame) :
    (args.pass natives table position frame).frame.callee = frame.callee := by
  cases args with
  | last term => exact Term.pass_callee term position frame
  | more term comma rest => exact (Arguments.pass_callee rest ..).trans (Term.pass_callee term position frame)

end

/-- Closing a call reaches the registry for that call, besides what was passed in it. -/
theorem Passage.callee_of_mem_close {position : Nat} {frame : Frame} {inner : Passage} {call : Invocation}
    (member : call ∈ (Passage.close natives position frame inner).events.filterMap Event.invocation?) :
    call ∈ inner.events.filterMap Event.invocation? ∨ call.callee = inner.frame.callee := by
  simp only [close, List.filterMap_append, Frame.invocations_receive, List.append_nil, List.mem_append] at member
  refine member.imp_right fun ran => ?_
  rcases inner.frame.invocations_run natives position with none | ⟨only, made, same, _⟩
  · rw [none] at ran
    cases ran
  · rw [made, List.mem_singleton] at ran
    rw [ran, same]

mutual

/-- The calls made while a term is passed are those of callees in the term. -/
theorem Term.callee_ge_of_mem_pass (term : Term) {position : Nat} {frame : Frame} :
    ∀ call ∈ (term.pass natives table position frame).events.filterMap Event.invocation?,
      position ≤ call.callee.position := by
  intro call member
  cases term with
  | single t _ =>
    rw [Term.pass, Frame.invocations_take] at member
    cases member
  | bare callee name opening close =>
    rcases Passage.callee_of_mem_close member with inner | own
    · cases inner
    · rw [own]
      exact Nat.le_refl position
  | call callee name opening args close =>
    rcases Passage.callee_of_mem_close member with inner | own
    · have behind := Arguments.callee_ge_of_mem_pass args call inner
      omega
    · rw [own, Passage.behind, Arguments.pass_callee]
      exact Nat.le_refl position

private theorem Arguments.callee_ge_of_mem_pass (args : Arguments) {position : Nat} {frame : Frame} :
    ∀ call ∈ (args.pass natives table position frame).events.filterMap Event.invocation?,
      position ≤ call.callee.position := by
  intro call member
  cases args with
  | last term => exact Term.callee_ge_of_mem_pass term call member
  | more term comma rest =>
    rw [Arguments.pass, Passage.behind, List.filterMap_append, List.mem_append] at member
    rcases member with first | later
    · exact Term.callee_ge_of_mem_pass term call first
    · have behind := Arguments.callee_ge_of_mem_pass rest call later
      omega

end

mutual

/-- A call that is complete behind an argument was so before it, and nothing was found wrong in between. -/
theorem Term.pass_complete (term : Term) {position : Nat} {frame : Frame}
    (complete : (term.pass natives table position frame).frame.complete = true) :
    frame.complete = true ∧ Event.Clean (term.pass natives table position frame).events := by
  cases term with
  | single t _ => exact Frame.take_complete complete
  | bare callee name opening close =>
    obtain ⟨around, alive, heard⟩ := Frame.receive_complete complete
    obtain ⟨_, ran⟩ := Frame.run_alive alive
    simp only [Term.pass, Passage.close, Event.clean_append]
    exact ⟨around, rfl, ran, heard⟩
  | call callee name opening args close =>
    obtain ⟨around, alive, heard⟩ := Frame.receive_complete complete
    obtain ⟨inner, ran⟩ := Frame.run_alive alive
    obtain ⟨_, passed⟩ := Arguments.pass_complete args inner
    simp only [Term.pass, Passage.close, Event.clean_append]
    exact ⟨around, passed, ran, heard⟩

private theorem Arguments.pass_complete (args : Arguments) {position : Nat} {frame : Frame}
    (complete : (args.pass natives table position frame).frame.complete = true) :
    frame.complete = true ∧ Event.Clean (args.pass natives table position frame).events := by
  cases args with
  | last term => exact Term.pass_complete term complete
  | more term comma rest =>
    obtain ⟨between, later⟩ := Arguments.pass_complete rest complete
    obtain ⟨before, first⟩ := Term.pass_complete term between
    exact ⟨before, Event.clean_append.mpr ⟨first, later⟩⟩

end

/-- A single token is taken without a finding only where it is a literal or a variable that can be reached. -/
theorem Frame.reached_of_take {frame : Frame} {site : Site} (clean : Event.Clean (frame.take table site).2)
    (noLiteral : site.token.literal? = none) :
    ∃ value, table.resolve site.token.text site.token.scope = .visible value := by
  unfold take at clean
  simp only [noLiteral] at clean
  split at clean
  · exact ⟨_, by assumption⟩
  · exact (Event.not_clean_reported _ _ clean).elim
  · exact (Event.not_clean_reported _ _ clean).elim

mutual

/-- Where passing a term finds nothing wrong, every variable that it reads can be reached. -/
theorem Term.reached_of_clean (term : Term) {position : Nat} {frame : Frame}
    (clean : Event.Clean (term.pass natives table position frame).events) : term.Reached table := by
  cases term with
  | single t _ => exact Frame.reached_of_take clean
  | bare callee name opening close => exact trivial
  | call callee name opening args close =>
    exact Arguments.reached_of_clean args (Event.clean_append.mp clean).1

private theorem Arguments.reached_of_clean (args : Arguments) {position : Nat} {frame : Frame}
    (clean : Event.Clean (args.pass natives table position frame).events) : args.Reached table := by
  cases args with
  | last term => exact Term.reached_of_clean term clean
  | more term comma rest =>
    obtain ⟨first, later⟩ := Event.clean_append.mp clean
    exact ⟨Term.reached_of_clean term first, Arguments.reached_of_clean rest later⟩

end

namespace Script

open Grammar

variable {script : Script} {p e : Nat} {t : Token}

/-! ### What derives from the grammar is a term -/

/-- The tokens from `p` up to `e` are a term, or some arguments. -/
def Spans (script : Script) (p e : Nat) : Phrase → Prop
  | .arguments => ∃ args : Arguments, script.Stands p args.tokens ∧ p + args.tokens.length = e + 1
  | .call | .argument => ∃ term : Term, script.Stands p term.tokens ∧ p + term.tokens.length = e + 1

private theorem stands_nil (script : Script) (p : Nat) : script.Stands p [] := List.nil_prefix

private theorem spans_of_derives {phrase : Phrase} (derives : Derives script.tokens phrase p e) :
    script.Spans p e phrase := by
  induction derives with
  | @bare p callee close =>
    obtain ⟨⟨t, read, name⟩, u, next, opens⟩ := callee
    obtain ⟨v, last, closes⟩ := close
    refine ⟨.bare t name ⟨u, opens⟩ ⟨v, closes⟩, ?_, rfl⟩
    exact stands_cons.mpr ⟨read, stands_cons.mpr ⟨next, stands_cons.mpr ⟨last, stands_nil ..⟩⟩⟩
  | @list p e callee _ close ih =>
    obtain ⟨⟨t, read, name⟩, u, next, opens⟩ := callee
    obtain ⟨v, last, closes⟩ := close
    obtain ⟨args, inside, reaches⟩ := ih
    refine ⟨.call t name ⟨u, opens⟩ args ⟨v, closes⟩, ?_, ?_⟩
    · refine stands_cons.mpr ⟨read, stands_cons.mpr ⟨next, stands_append.mpr ⟨inside, ?_⟩⟩⟩
      rw [reaches]
      exact stands_cons.mpr ⟨last, stands_nil ..⟩
    · simp only [Term.tokens, List.length_cons, List.length_append, List.length_nil]
      omega
  | nested _ ih => exact ih
  | @single p value _ =>
    have one : ∃ t, script.tokens[p]? = some t ∧ t.isValue = true := by
      rcases value with ⟨t, read, kind⟩ | ⟨t, read, kind⟩
      · exact ⟨t, read, by simp [Token.isValue, Kind.isValue, kind]⟩
      · exact ⟨t, read, by simp [Token.isValue, Kind.isValue, kind]⟩
    obtain ⟨t, read, isValue⟩ := one
    exact ⟨.single t isValue, stands_cons.mpr ⟨read, stands_nil ..⟩, rfl⟩
  | last _ ih =>
    obtain ⟨term, stands, reaches⟩ := ih
    exact ⟨.last term, stands, reaches⟩
  | more _ comma _ first rest =>
    obtain ⟨u, read, kind⟩ := comma
    obtain ⟨term, before, reaches⟩ := first
    obtain ⟨args, behind, ends⟩ := rest
    refine ⟨.more term ⟨u, kind⟩ args, ?_, ?_⟩
    · refine stands_append.mpr ⟨before, ?_⟩
      rw [reaches]
      exact stands_cons.mpr ⟨read, behind⟩
    · simp only [Arguments.tokens, List.length_append, List.length_cons]
      omega

/-! ### Calls that are given up -/

/-- Where a reading is given up, only calls that stand inside others have been made. -/
theorem inner_of_mem_readCall (table : Table) {ts : List Token} {position : Nat} {expected : Expected}
    (top : Frame) (below : List Frame) (reads : script.Reads position expected ts) (outermost : Nat) :
    outermost < position → outermost ∉ ((top :: below).map (·.callee.position)).dropLast →
      (readCall script.natives table ts position expected top below).close = none →
        ∀ call ∈ (readCall script.natives table ts position expected top below).invocations,
          call.callee.position ≠ outermost := by
  refine script.reading_induct table (motive := fun position _ top below result =>
    outermost < position → outermost ∉ ((top :: below).map (·.callee.position)).dropLast →
      result.close = none → ∀ call ∈ result.invocations, call.callee.position ≠ outermost) ?giveUp ?opening
    ?close ?closeInner ?comma ?callee ?value top below reads
  case giveUp =>
    intro _ _ _ _ _ _ _ _ _ call member
    cases member
  case opening | comma =>
    intro _ _ _ _ _ _ _ ih before
    exact ih (Nat.lt_succ_of_lt before)
  case close =>
    intro _ _ _ _ _ _ _ _ _ gaveUp
    cases gaveUp
  case closeInner =>
    intro _ position _ top parent others result _ _ _ ih before apart gaveUp call member
    simp only [List.map_cons, List.dropLast_cons_cons, List.mem_cons, not_or] at apart
    rw [CallResult.invocations_after, List.filterMap_append, Frame.invocations_receive, List.append_nil,
      List.mem_append] at member
    rcases member with own | later
    · rcases top.invocations_run script.natives position with none | ⟨only, made, same, _⟩
      · rw [none] at own
        cases own
      · rw [made, List.mem_singleton] at own
        rw [own, same]
        exact Ne.symm apart.1
    · refine ih (Nat.lt_succ_of_lt before) ?_ gaveUp call later
      rw [List.map_cons, Frame.receive_callee]
      exact apart.2
  case callee =>
    intro _ position _ top below _ _ _ _ _ ih before apart
    refine ih (Nat.lt_succ_of_lt before) ?_
    rw [List.map_cons, List.map_cons, List.dropLast_cons_cons, List.mem_cons, not_or]
    exact ⟨Nat.ne_of_lt before, apart⟩
  case value =>
    intro _ _ _ top below _ _ _ _ _ _ ih before apart gaveUp call member
    rw [CallResult.invocations_after, Frame.invocations_take, List.nil_append] at member
    refine ih (Nat.lt_succ_of_lt before) ?_ gaveUp call member
    rw [List.map_cons, Frame.take_callee]
    exact apart

/-- A call that is given up is not made. -/
theorem not_made_of_open {table : Table} (callee : script.isCallee p = true)
    (gaveUp : (script.evaluate table p t).close = none) :
    ∀ call ∈ (script.evaluate table p t).invocations, call.callee.position ≠ p :=
  inner_of_mem_readCall table ⟨⟨p, t⟩, [], true⟩ [] (reads_of_isCallee callee) p (by omega) (by simp) gaveUp

/-! ### When the function of a call is run -/

/-- The call of the callee `t` at position `p` is ready for its function: it is written to its end as a term, every
variable in it can be reached, its arguments have values, calls among them included, and the function is there and
accepts the values. -/
structure Ready (script : Script) (table : Table) (p : Nat) (t : Token) (term : Term) (values : List Value)
    (native : Native) : Prop where
  stands : script.Stands p term.tokens
  reached : term.Reached table
  held : term.arguments? script.natives table = some values
  found : script.natives.find? t.text = some native
  accepted : native.check values = .ok ()

/-- A call that is passed up to its closing parenthesis makes the calls among its arguments and, at its end, its
own. -/
theorem evaluate_term {term : Term} {values : List Value} (read : script.tokens[p]? = some t)
    (stands : script.Stands p term.tokens) (reached : term.Reached table)
    (held : term.arguments? script.natives table = some values) :
    ∃ inner : Passage, inner.frame = ⟨⟨p, t⟩, values, true⟩ ∧
      script.evaluate table p t = script.closing (p + term.tokens.length - 1) inner := by
  obtain rfl : term.head = t := Option.some.inj ((head_of_stands stands).symm.trans read)
  cases term with
  | single => cases held
  | bare callee name opening close =>
    obtain rfl := Option.some.inj held
    exact ⟨_, rfl, evaluate_bare table stands⟩
  | call callee name opening args close =>
    have clean : Event.Clean (args.pass script.natives table (p + 2) (Passage.enter ⟨p, callee⟩).frame).events :=
      args.clean_pass reached held
    obtain ⟨others, same, frame_eq⟩ := Arguments.pass_clean args clean
    obtain rfl := Option.some.inj (held.symm.trans same)
    have last : p + (Term.call callee name opening args close).tokens.length - 1 =
        p + 2 + args.tokens.length := by
      simp only [Term.tokens, List.length_cons, List.length_append, List.length_nil]
      omega
    exact ⟨(Passage.enter ⟨p, callee⟩).behind _, frame_eq, last ▸ evaluate_call table stands⟩

/-- A call that is ready runs its function on the values of its arguments. -/
theorem made_of_ready {term : Term} {values : List Value} {native : Native}
    (read : script.tokens[p]? = some t) (ready : script.Ready table p t term values native) :
    ⟨⟨p, t⟩, p + term.tokens.length - 1, values, some (native.body values)⟩ ∈
      (script.evaluate table p t).invocations := by
  obtain ⟨⟨_, _, _⟩, rfl, evaluated⟩ := evaluate_term read ready.stands ready.reached ready.held
  rw [evaluated, CallResult.invocations, closing, List.filterMap_append]
  apply List.mem_append_right
  exact (Frame.ran_iff.mpr ⟨rfl, native, ready.found, ready.accepted, rfl⟩).1

/-- A call that stands as a term and whose function is run was ready for it, on the arguments that it is run on. -/
theorem ready_of_stands {term : Term} (stands : script.Stands p term.tokens) (long : 1 < term.tokens.length)
    {call : Invocation} (made : call ∈ (script.evaluate table p term.head).invocations)
    (own : call.callee.position = p) (ran : call.reply.isSome = true) :
    ∃ native, script.Ready table p term.head term call.args native := by
  cases term with
  | single t value => exact absurd long (Nat.lt_irrefl 1)
  | bare f name opening close =>
    rw [Term.head, evaluate_bare table stands] at made
    obtain ⟨_, native, found, accepted, rfl⟩ := Frame.ran_iff.mp ⟨made, ran⟩
    exact ⟨native, stands, trivial, rfl, found, accepted⟩
  | call f name opening args close =>
    rw [Term.head, evaluate_call table stands, CallResult.invocations, closing, List.filterMap_append,
      List.mem_append] at made
    rcases made with inner | outer
    · have later := args.callee_ge_of_mem_pass call inner
      omega
    · obtain ⟨complete, native, found, accepted, rfl⟩ := Frame.ran_iff.mp ⟨outer, ran⟩
      obtain ⟨_, clean⟩ := args.pass_complete complete
      obtain ⟨values, held, frame_eq⟩ := args.pass_clean clean
      simp only [Passage.behind, frame_eq] at found accepted ⊢
      exact ⟨native, stands, args.reached_of_clean clean, held, found, accepted⟩

/-- A call whose function is run was ready for it. -/
theorem ready_of_made (read : script.tokens[p]? = some t) (callee : script.isCallee p = true)
    {call : Invocation} (made : call ∈ (script.evaluate table p t).invocations)
    (own : call.callee.position = p) (ran : call.reply.isSome = true) :
    ∃ term values native, script.Ready table p t term values native := by
  cases closed : (script.evaluate table p t).close with
  | none => exact absurd own (not_made_of_open callee closed call made)
  | some e =>
    have derives := (close_evaluate table t callee).mp closed
    obtain ⟨term, stands, reaches⟩ := spans_of_derives derives
    have behind := (matches_of_derives derives).ordered
    obtain rfl : term.head = t := Option.some.inj ((head_of_stands stands).symm.trans read)
    exact ⟨term, call.args, ready_of_stands stands (by omega) made own ran⟩

end Script

def CallResult.ranAt (result : CallResult) (p : Nat) : List Invocation :=
  result.invocations.filter fun call => call.callee.position = p ∧ call.reply.isSome

/-- Calls that close one behind the other and all at one place are at most one. -/
private theorem eq_singleton_of_close {calls : List Invocation} {call : Invocation}
    (increasing : (calls.map (·.close)).Pairwise (· < ·))
    (same : ∀ first ∈ calls, ∀ second ∈ calls, first.close = second.close) (member : call ∈ calls) :
    calls = [call] := by
  match calls with
  | [] => cases member
  | [only] => rw [List.mem_singleton.mp member]
  | first :: second :: rest =>
    have before : first.close < second.close := List.rel_of_pairwise_cons increasing (List.mem_cons_self ..)
    have equal := same first (by simp) second (by simp)
    omega

namespace Script

variable {script : Script} {table : Table} {p : Nat} {t : Token}

private theorem ranAt_of_mem (read : script.tokens[p]? = some t) (callee : script.isCallee p = true) {call : Invocation}
    (member : call ∈ (script.evaluate table p t).ranAt p) : (script.evaluate table p t).ranAt p = [call] := by
  have within : ((script.evaluate table p t).ranAt p).Sublist (script.evaluate table p t).invocations :=
    List.filter_sublist
  have delimits : ∀ call ∈ (script.evaluate table p t).invocations, script.Delimits call :=
    delimits_evaluate read callee
  refine eq_singleton_of_close ((ordered_evaluate table t callee).increasing.sublist (within.map _)) ?_ member
  intro first one second two
  obtain ⟨one, atFirst⟩ := List.mem_filter.mp one
  obtain ⟨two, atSecond⟩ := List.mem_filter.mp two
  simp only [decide_eq_true_eq] at atFirst atSecond
  have left := (delimits first one).2.2
  have right := (delimits second two).2.2
  rw [atFirst.1] at left
  rw [atSecond.1] at right
  exact left.unique right

/-- A call fails exactly where something is reported in it, in the calls among its arguments included. Its function
is run exactly once where the call is ready for it, on the values of the arguments in the order in which they are
written, and not at all otherwise. The calls among its arguments are evaluated in the same way. -/
theorem evaluate_spec (script : Script) (table : Table) {p : Nat} {t : Token}
    (read : script.tokens[p]? = some t) (callee : script.isCallee p = true) :
    ((script.evaluate table p t).outcome = .failed ↔
        ∃ finding, .reported finding ∈ (script.evaluate table p t).events) ∧
      (∀ term values native, script.Ready table p t term values native →
        (script.evaluate table p t).ranAt p =
          [⟨⟨p, t⟩, p + term.tokens.length - 1, values, some (native.body values)⟩]) ∧
      ((¬ ∃ term values native, script.Ready table p t term values native) →
        (script.evaluate table p t).ranAt p = []) ∧
      ∀ c ∈ (script.evaluate table p t).callees, ∀ u, script.tokens[c]? = some u →
        script.isCallee c = true ∧
          (script.evaluate table c u).events <:+: (script.evaluate table p t).events := by
  refine ⟨?failed, ?once, ?never, ?nested⟩
  case failed => rw [← Event.not_clean_iff, clean_evaluate_iff callee, ne_eq, Decidable.not_not]
  case once =>
    intro term values native ready
    apply ranAt_of_mem read callee
    exact List.mem_filter.mpr ⟨made_of_ready read ready, by simp⟩
  case never =>
    intro unready
    apply List.filter_eq_nil_iff.mpr
    intro call made ran
    simp only [decide_eq_true_eq] at ran
    exact unready (ready_of_made read callee made ran.1 ran.2)
  case nested =>
    intro c met u found
    exact ⟨isCallee_of_mem_evaluate callee c met, events_infix_evaluate read callee c met u found⟩

/-- A function is run once on the value of a call among its arguments, and not at all on a value of the wrong
type. -/
theorem run_on_text_refused_on_number :
    let script : Script := ⟨tokenize "size(toString(7)); size(7);", Builtin.registry⟩
    let accepted : Token := ⟨.identifier, "size", 1, ⟨0, 0⟩, ⟨0, 4⟩⟩
    let refused : Token := ⟨.identifier, "size", 1, ⟨0, 0⟩, ⟨19, 23⟩⟩
    (script.tokens[0]? = some accepted ∧ script.isCallee 0 = true ∧ ∃ term values native,
        script.Ready {} 0 accepted term values native ∧ (script.evaluate {} 0 accepted).ranAt 0 =
          [⟨⟨0, accepted⟩, 0 + term.tokens.length - 1, values, some (native.body values)⟩]) ∧
      script.tokens[8]? = some refused ∧ script.isCallee 8 = true ∧
        (∃ finding, .reported finding ∈ (script.evaluate {} 8 refused).events) ∧
        ¬ ∃ term values native, script.Ready {} 8 refused term values native := by
  intro script accepted refused
  have read : script.tokens[0]? = some accepted := by decide +kernel
  have callee : script.isCallee 0 = true := by decide +kernel
  have other : script.tokens[8]? = some refused := by decide +kernel
  have called : script.isCallee 8 = true := by decide +kernel
  obtain ⟨_, once, never, _⟩ := script.evaluate_spec {} read callee
  obtain ⟨fails, onceThere, _, _⟩ := script.evaluate_spec {} other called
  refine ⟨⟨read, callee, ?_⟩, other, called, fails.mp (by decide +kernel), ?_⟩
  · have ready : ∃ term values native, script.Ready {} 0 accepted term values native := by
      apply Classical.byContradiction
      intro unready
      exact absurd (never unready) (by decide +kernel)
    obtain ⟨term, values, native, ready⟩ := ready
    exact ⟨term, values, native, ready, once term values native ready⟩
  · rintro ⟨term, values, native, ready⟩
    have none : (script.evaluate {} 8 refused).ranAt 8 = [] := by decide +kernel
    exact absurd (none.symm.trans (onceThere term values native ready)) (List.cons_ne_nil _ _).symm

end Script

end ScriptCheck
