import ScriptCheck.Proofs.Call.Grammar
import ScriptCheck.Proofs.Call.Provenance
import ScriptCheck.Proofs.Run.Faultless
import ScriptCheck.Proofs.Run.Inside
import ScriptCheck.Proofs.Run.Nearest

/-! # Names that stand by themselves

A name that is neither next to an equal sign or an operator nor among the arguments of a call is only checked
against the token before it, and so is one before an equal sign or an operator with which the script ends. No rule
looks it up: in a script without diagnostics any other name may stand in its place, and the run is the same
(`Script.run_replacing`).
-/

namespace ScriptCheck

/-- A call is closed no earlier than where its reader stands, and the tokens behind its closing parenthesis play no
part in it. -/
theorem readCall_set (natives : Registry) (table : Table) (ts : List Token) (position : Nat) (expected : Expected)
    (top : Frame) (below : List Frame) {e : Nat}
    (closed : (readCall natives table ts position expected top below).close = some e) :
    position ≤ e ∧ ∀ k u, e < position + k →
      readCall natives table (ts.set k u) position expected top below =
        readCall natives table ts position expected top below := by
  fun_induction readCall natives table ts position expected top below with
  | case1 | case2 | case7 | case10 => cases closed
  | case3 t rest position top below inside ih =>
    obtain ⟨later, same⟩ := ih closed
    refine ⟨by omega, fun k u behind => ?_⟩
    obtain ⟨k, rfl⟩ : ∃ j, k = j + 1 := ⟨k - 1, by omega⟩
    rw [List.set_cons_succ, readCall, if_neg inside, if_pos rfl, same k u (by omega)]
  | case4 t rest position expected top inside notOpening closing =>
    obtain rfl : position = e := Option.some.inj closed
    refine ⟨Nat.le_refl _, fun k u behind => ?_⟩
    obtain ⟨k, rfl⟩ : ∃ j, k = j + 1 := ⟨k - 1, by omega⟩
    rw [List.set_cons_succ, readCall, if_neg inside, if_neg notOpening, if_pos closing]
  | case5 t rest position expected top inside notOpening closing ran parent others heard ih =>
    obtain ⟨later, same⟩ := ih closed
    refine ⟨by omega, fun k u behind => ?_⟩
    obtain ⟨k, rfl⟩ : ∃ j, k = j + 1 := ⟨k - 1, by omega⟩
    rw [List.set_cons_succ, readCall, if_neg inside, if_neg notOpening, if_pos closing]
    dsimp only
    rw [same k u (by omega)]
  | case6 t rest position top below inside comma notOpening notClosing ih =>
    obtain ⟨later, same⟩ := ih closed
    refine ⟨by omega, fun k u behind => ?_⟩
    obtain ⟨k, rfl⟩ : ∃ j, k = j + 1 := ⟨k - 1, by omega⟩
    rw [List.set_cons_succ, readCall, if_neg inside, if_neg notOpening, if_neg notClosing, if_pos rfl,
      if_pos comma, same k u (by omega)]
  | case8 t rest position expected top below inside notOpening notClosing notSeparator calls ih =>
    obtain ⟨later, same⟩ := ih closed
    refine ⟨by omega, fun k u behind => ?_⟩
    obtain ⟨k, rfl⟩ : ∃ j, k = j + 2 := ⟨k - 2, by omega⟩
    have next : (rest.set (k + 1) u).head? = rest.head? := by cases rest <;> rfl
    rw [List.set_cons_succ, readCall, if_neg inside, if_neg notOpening, if_neg notClosing, if_neg notSeparator,
      next, if_pos calls, same (k + 1) u (by omega)]
  | case9 t rest position expected top below inside notOpening notClosing notSeparator single value taken ih =>
    obtain ⟨later, same⟩ := ih closed
    refine ⟨by omega, fun k u behind => ?_⟩
    obtain ⟨k, rfl⟩ : ∃ j, k = j + 2 := ⟨k - 2, by omega⟩
    have next : (rest.set (k + 1) u).head? = rest.head? := by cases rest <;> rfl
    rw [List.set_cons_succ, readCall, if_neg inside, if_neg notOpening, if_neg notClosing, if_neg notSeparator,
      next, if_neg single, if_pos value]
    dsimp only
    rw [same (k + 1) u (by omega)]

namespace Script

/-- Position `i` stands behind the callee in the same statement, and the call is not closed before it. -/
structure InCall (script : Script) (callee i : Nat) : Prop where
  calls : script.isCallee callee = true
  same : script.SameStatement (callee + 1) i
  unclosed : ∀ close < i, ¬ script.Matches (callee + 1) close

/-- The name at position `i` stands by itself: behind a token that opens or ends something, before one that ends
something or the script, and in no call. -/
structure Alone (script : Script) (i : Nat) : Prop where
  behind : ∀ previous, script.before? i 1 = some previous →
    previous.kind ∈ [.openScope, .closeScope, .semicolon, .openParen, .closeParen, .comma]
  before : ∀ next, script.tokens[i + 1]? = some next → next.kind ∈ [.semicolon, .closeParen, .comma] ∨
    i + 2 = script.size ∧ next.kind ∈ [.equals, .plus, .minus]
  outside : ∀ callee, ¬ script.InCall callee i

def replacing (script : Script) (i : Nat) (u : Token) : Script := { script with tokens := script.tokens.set i u }

variable {script : Script} {state : State} {i n : Nat} {t u : Token}

/-- A token of another kind stands elsewhere than a name. -/
theorem ne_of_isName (read : script.tokens[i]? = some t) (name : t.isName = true)
    (found : script.tokens[n]? = some u) (other : u.kind ≠ .identifier) : n ≠ i := by
  rintro rfl
  obtain rfl := Option.some.inj (read.symm.trans found)
  exact other (Token.isName_iff.mp name).1

private theorem Alone.kind_behind (alone : script.Alone i) : ∀ next, script.tokens[i + 1]? = some next →
    next.kind ∈ [.semicolon, .closeParen, .comma, .equals, .plus, .minus] := by
  intro next behind
  rcases alone.before next behind with ends | ⟨_, last⟩
  · exact List.mem_append_left [.equals, .plus, .minus] ends
  · exact List.mem_append_right [.semicolon, .closeParen, .comma] last

/-- Before the last token of a script only a token that ends something is behind the name. -/
private theorem Alone.ends {next : Token} (alone : script.Alone i) (behind : script.tokens[i + 1]? = some next)
    (follows : i + 2 < script.size) : next.kind = .semicolon ∨ next.kind = .closeParen ∨ next.kind = .comma := by
  rcases alone.before next behind with ends | ⟨last, _⟩
  · simpa using ends
  · omega

/-! ### The rules at the name and behind it -/

/-- At a name that begins nothing happens, whatever the variables are. -/
theorem step_of_alone {previous : Token} (before : script.before? i 1 = some previous)
    (kind : previous.kind ∈ [.openScope, .closeScope, .semicolon, .openParen, .closeParen, .comma])
    (read : script.tokens[i]? = some t) (name : t.isName = true) (single : script.isCallee i = false) :
    script.step state i = state.idle := by
  have plain : previous.kind.operator? = none ∧ previous.kind ≠ .equals ∧ previous.kind.declares? = none ∧
      previous.isValue = false := by
    simp only [List.mem_cons, List.not_mem_nil, or_false] at kind
    rcases kind with kind | kind | kind | kind | kind | kind <;>
      simp [kind, Kind.operator?, Kind.declares?, Token.isValue, Kind.isValue]
  obtain ⟨notOperator, notEquals, notType, notValue⟩ := plain
  by_cases ahead : state.resume ≤ i
  · rw [step_eq_follow ahead before read, follow_eq_checkGrammar t notOperator notEquals,
      checkGrammar_eq_enterValue previous (Token.isValue_of_isName name), enterValue_eq, notType]
    simp [notValue, evaluateFresh, single, State.idle]
  · exact step_eq_idle fun visits => ahead visits.1

/-- At the token behind a name nothing happens, unless it is one that may not stand there. -/
theorem step_behind_alone (read : script.tokens[i]? = some t) (name : t.isName = true)
    (ends : ∀ next, script.tokens[i + 1]? = some next →
      next.kind ∈ [.semicolon, .closeParen, .comma, .equals, .plus, .minus]) :
    script.step state (i + 1) = state.idle := by
  have before : script.before? (i + 1) 1 = some t := by simpa [before?] using read
  have named := (Token.isName_iff.mp name).1
  have operand : t.endsOperand = true := Token.endsOperand_iff.mpr (.inl (Token.isValue_of_isName name))
  by_cases visits : state.resume ≤ i + 1 ∧ i + 1 < script.tokens.length
  · have next := List.getElem?_eq_getElem visits.2
    have kind := ends _ next
    rw [step_eq_follow visits.1 before next,
      follow_eq_checkGrammar _ (by simp [named, Kind.operator?]) (by simp [named])]
    simp only [List.mem_cons, List.not_mem_nil, or_false] at kind
    rcases kind with kind | kind | kind | kind | kind | kind <;>
      simp [checkGrammar, kind, State.endStatement, operand, Token.isValue_of_isName name]
  · exact step_eq_idle visits

/-- A name that stands by itself is the target of no operator. -/
theorem nearest?_ne_of_alone (alone : script.Alone i) (read : script.tokens[i]? = some t) (name : t.isName = true)
    {depth : Nat} (apart : n ≠ i + 1) (inside : n < script.size) : script.nearest? depth n ≠ some i := by
  induction n generalizing depth with
  | zero => nofun
  | succ j ih =>
    intro found
    have before := lt_of_nearest? found
    rcases Nat.eq_or_lt_of_le (Nat.le_of_lt_succ before) with rfl | before
    · exact apart rfl
    rw [nearest?] at found
    by_cases next : j = i + 1
    · subst next
      -- The token behind the name ends the scan, or the name stands between parentheses that have been passed.
      have deeper : ∀ depth, script.nearest? (depth + 1) (i + 1) ≠ some i := by
        intro depth found
        rw [nearest?_inside read (.inr (Token.isValue_of_isName name))] at found
        exact absurd (lt_of_nearest? found) (Nat.lt_irrefl i)
      split at found
      · cases found
      · rename_i u behind
        rcases alone.ends behind inside with kind | kind | kind
        · simp [kind, Kind.endsStatement] at found
        · simp only [kind, Kind.endsStatement, Kind.isScope] at found
          exact deeper depth (by simpa using found)
        · cases depth with
          | zero => simp [kind, Kind.endsStatement, Kind.isScope] at found
          | succ depth => exact deeper depth (by simpa [kind, Kind.endsStatement, Kind.isScope] using found)
    · repeat' split at found
      all_goals first | exact ih next (Nat.lt_of_succ_lt inside) found | cases found
      exact absurd before (Nat.lt_irrefl _)

/-! ### Another name in its place -/

private theorem getElem?_replacing (apart : n ≠ i) : (script.replacing i u).tokens[n]? = script.tokens[n]? :=
  List.getElem?_set_ne (Ne.symm apart)

private theorem getElem?_replacing_self (read : script.tokens[i]? = some t) :
    (script.replacing i u).tokens[i]? = some u :=
  List.getElem?_set_self (List.getElem?_eq_some_iff.mp read).1

private theorem before?_replacing {back : Nat} (apart : n ≠ i + back) :
    (script.replacing i u).before? n back = script.before? n back := by
  unfold before?
  split
  · exact getElem?_replacing (by omega)
  · rfl

section

variable (read : script.tokens[i]? = some t) (name : t.isName = true) (other : u.isName = true)
include read name other

private theorem isCallee_replacing (n : Nat) : (script.replacing i u).isCallee n = script.isCallee n := by
  have kind := (Token.isName_iff.mp name).1
  have otherKind := (Token.isName_iff.mp other).1
  unfold isCallee
  by_cases here : n = i
  · subst here
    rw [getElem?_replacing_self read, read, getElem?_replacing (Nat.succ_ne_self n)]
    simp [opensCall, name, other]
  · rw [getElem?_replacing here]
    by_cases next : n + 1 = i
    · subst next
      rw [getElem?_replacing_self read, read]
      simp [opensCall, kind, otherKind]
    · rw [getElem?_replacing next]

private theorem nearest?_replacing (depth n : Nat) :
    (script.replacing i u).nearest? depth n = script.nearest? depth n := by
  have kind := (Token.isName_iff.mp name).1
  have otherKind := (Token.isName_iff.mp other).1
  induction n generalizing depth with
  | zero => rfl
  | succ j ih =>
    rw [nearest?, nearest?, isCallee_replacing read name other]
    simp only [ih]
    by_cases here : j = i
    · subst here
      rw [getElem?_replacing_self read, read]
      simp [kind, otherKind, name, other]
    · rw [getElem?_replacing here]

private theorem foldTarget_replacing (state : State) (n : Nat) :
    (script.replacing i u).foldTarget state n = script.foldTarget state n := by
  unfold foldTarget
  simp only [nearest?_replacing read name other]

end

/-- A call without a finding does not read a name that stands by itself. -/
theorem evaluate_replacing (alone : script.Alone i) (read : script.tokens[i]? = some t) (name : t.isName = true)
    (single : script.isCallee i = false) {table : Table} {c : Token} (callee : script.isCallee n = true)
    (clean : Event.Clean (script.evaluate table n c).events) (u : Token) :
    (script.replacing i u).evaluate table n c = script.evaluate table n c := by
  have apart : n ≠ i := by
    rintro rfl
    rw [callee] at single
    cases single
  obtain ⟨_, opening, _, _, next, opens⟩ := isCallee_iff.mp callee
  obtain ⟨⟨e, closed⟩, _⟩ := evaluate_closed callee clean
  have reads : (readCall script.natives table (script.tokens.drop (n + 2)) (n + 2) .first
      ⟨⟨n, c⟩, [], true⟩ []).close = some e := closed
  unfold evaluate
  congr 1
  change readCall script.natives table ((script.tokens.set i u).drop (n + 2)) _ _ _ _ = _
  rcases Nat.lt_or_gt_of_ne apart with before | behind
  · have far : n + 1 ≠ i := ne_of_isName read name next (by simp [opens])
    have closes := matches_of_derives ((close_evaluate table c callee).mp closed)
    have within : e < i := by
      by_contra notWithin
      refine alone.outside n ⟨callee, ⟨before, fun k u later earlier found => ?_⟩, fun close behind matched => ?_⟩
      · exact (inList_evaluate callee closed later (by omega)).not_endsStatement found
      · rw [matched.unique closes] at behind
        exact notWithin behind
    rw [List.drop_set, if_neg (by omega)]
    exact (readCall_set _ _ _ _ _ _ _ reads).2 (i - (n + 2)) u (by omega)
  · rw [List.drop_set_of_lt (by omega)]

/-! ### The rules at the other tokens -/

section

variable (alone : script.Alone i) (read : script.tokens[i]? = some t) (name : t.isName = true)
  (single : script.isCallee i = false) (other : u.isName = true) {current : Token}
include alone read name single other

private theorem combine_replacing {operator : Operator} {op : Token} (apart : n ≠ i + 1) (behind : n ≠ i + 2)
    (inside : n < script.size)
    (clean : Event.Clean (script.combine state n operator op current).events)
    (agrees : script.foldTarget state n = script.nearest? 0 n) :
    (script.replacing i u).combine state n operator op current = script.combine state n operator op current := by
  have left : (script.replacing i u).hasLeft n = script.hasLeft n := by
    rw [hasLeft, hasLeft, before?_replacing behind]
  cases present : script.hasLeft n with
  | false => simp [combine, left, present]
  | true =>
    have same : (script.replacing i u).operand state.table n op current =
        script.operand state.table n op current := by
      unfold operand
      rw [isCallee_replacing read name other]
      by_cases callee : script.isCallee n = true
      · have called := (evaluates_combine present callee).clean clean
        simp only [callee, if_true, evaluate_replacing alone read name single callee called]
      · simp only [callee, Bool.false_eq_true, if_false]
    have aims : script.foldTarget (state.notingOperand (script.operand state.table n op current)) n ≠ some i := by
      rw [foldTarget_of_notes (state.notes_notingOperand _), agrees]
      exact nearest?_ne_of_alone alone read name apart inside
    simp only [combine, left, same, useOperand, foldTarget_replacing read name other]
    split
    · rfl
    split
    · rename_i target _ aim
      have elsewhere : target ≠ i := by
        rintro rfl
        exact aims aim
      simp only [foldAt, getElem?_replacing elsewhere]
    · rfl

private theorem assign_replacing {target : Token}
    (clean : Event.Clean (script.assign state n target current).progress.events) :
    (script.replacing i u).assign state n target current = script.assign state n target current := by
  unfold assign
  rw [isCallee_replacing read name other]
  by_cases callee : script.isCallee n = true
  · have called := (evaluates_assign callee).clean clean
    simp only [callee, if_true, evaluate_replacing alone read name single callee called]
  · simp only [callee, Bool.false_eq_true, if_false]

private theorem evaluateFresh_replacing {declared : Progress}
    (clean : Event.Clean (script.evaluateFresh n current declared).events) :
    (script.replacing i u).evaluateFresh n current declared = script.evaluateFresh n current declared := by
  unfold evaluateFresh at clean ⊢
  rw [isCallee_replacing read name other]
  split
  · rename_i fresh
    rw [if_pos fresh] at clean
    have called := (Event.clean_append.mp clean).2
    dsimp only
    rw [evaluate_replacing alone read name single (Bool.and_eq_true_iff.mp fresh).1 called]
  · rfl

private theorem checkGrammar_replacing {previous : Token}
    (clean : Event.Clean (script.checkGrammar state n previous current).events) :
    (script.replacing i u).checkGrammar state n previous current =
      script.checkGrammar state n previous current := by
  by_cases value : current.isValue = true
  · rw [checkGrammar_eq_enterValue previous value, enterValue_eq] at clean
    rw [checkGrammar_eq_enterValue previous value, checkGrammar_eq_enterValue previous value, enterValue_eq,
      enterValue_eq]
    split
    · rfl
    rename_i notValue
    rw [if_neg notValue] at clean
    exact evaluateFresh_replacing alone read name single other clean
  · unfold checkGrammar
    cases kind : current.kind with
    | identifier | stringLiteral => simp [Token.isValue, Kind.isValue, kind] at value
    | _ => rfl

private theorem follow_replacing {previous : Token} (apart : n ≠ i + 1) (behind : n ≠ i + 2)
    (inside : n < script.size)
    (clean : Event.Clean (script.follow state n previous current).events)
    (agrees : previous.kind.operator?.isSome → script.foldTarget state n = script.nearest? 0 n) :
    (script.replacing i u).follow state n previous current = script.follow state n previous current := by
  unfold follow at clean ⊢
  rw [before?_replacing behind]
  split
  · rename_i operator operates
    rw [operates] at clean
    exact combine_replacing alone read name single other apart behind inside clean (agrees (by rw [operates]; rfl))
  · rename_i notOperator
    rw [notOperator] at clean
    dsimp only at clean
    split
    · rename_i noTarget
      rw [noTarget] at clean
      exact checkGrammar_replacing alone read name single other clean
    · rename_i target assigned
      rw [assigned] at clean
      dsimp only at clean ⊢
      split at clean
      · rename_i goesOn
        obtain ⟨quiet, rest⟩ := Event.clean_append.mp clean
        rw [assign_replacing alone read name single other quiet, if_pos goesOn, if_pos goesOn,
          checkGrammar_replacing alone read name single other rest]
      · rename_i stops
        rw [assign_replacing alone read name single other clean, if_neg stops, if_neg stops]

variable (clean : script.report.diagnostics = [])
include clean

/-- In a run without diagnostics each position does the same with another name in the place of one that stands by
itself. -/
theorem step_replacing (n : Nat) :
    (script.replacing i u).step (script.stateAt n) n = script.progressAt n := by
  have first : i ≠ 0 := by
    rintro rfl
    rcases begins_of_clean clean read with kind | kind <;>
      simp [(Token.isName_iff.mp name).1, Token.isType, Kind.declares?] at kind
  obtain ⟨previous, before⟩ : ∃ previous, script.before? i 1 = some previous := by
    obtain ⟨k, rfl⟩ := Nat.exists_eq_succ_of_ne_zero first
    exact exists_before (List.getElem?_eq_some_iff.mp read).1
  by_cases here : n = i
  · subst here
    have same : (script.replacing n u).before? n 1 = some previous := by
      rw [before?_replacing (Nat.ne_of_lt (Nat.lt_succ_self n)), before]
    have otherSingle : (script.replacing n u).isCallee n = false := by
      rw [isCallee_replacing read name other, single]
    have kind := alone.behind previous before
    rw [progressAt, step_of_alone before kind read name single,
      step_of_alone same kind (getElem?_replacing_self read) other otherSingle]
  by_cases next : n = i + 1
  · subst next
    have ends := alone.kind_behind
    rw [progressAt, step_behind_alone read name ends]
    refine step_behind_alone (getElem?_replacing_self read) other ?_
    rw [getElem?_replacing (Nat.succ_ne_self i)]
    exact ends
  have quiet := clean_progressAt clean n
  have visits := (faultless_of_clean clean n).visits
  cases found : script.tokens[n]? with
  | none => rw [progressAt, step, step, getElem?_replacing here, found]
  | some current =>
    have reads : (script.replacing i u).tokens[n]? = some current := by rw [getElem?_replacing here, found]
    have inside : n < script.size := (List.getElem?_eq_some_iff.mp found).1
    cases atBack : script.before? n 1 with
    | none => rw [progressAt, step, step, before?_replacing next, reads, found, atBack]
    | some back =>
      have otherBack : (script.replacing i u).before? n 1 = some back := by rw [before?_replacing next, atBack]
      rw [progressAt, step_eq_follow visits atBack found] at quiet
      rw [progressAt, step_eq_follow visits atBack found, step_eq_follow visits otherBack reads]
      by_cases behind : n = i + 2
      · -- The token before is the one behind the name, so the name is not looked at from here.
        subst behind
        have plain : back.kind.operator? = none ∧ back.kind ≠ .equals := by
          rcases alone.ends (by simpa [before?] using atBack) inside with kind | kind | kind <;>
            simp [kind, Kind.operator?]
        rw [follow_eq_checkGrammar current plain.1 plain.2] at quiet
        rw [follow_eq_checkGrammar current plain.1 plain.2, follow_eq_checkGrammar current plain.1 plain.2]
        exact checkGrammar_replacing alone read name single other quiet
      · exact follow_replacing alone read name single other next behind inside quiet fun operates =>
          foldTarget_stateAt atBack operates

private theorem stateAt_replacing (n : Nat) : (script.replacing i u).stateAt n = script.stateAt n := by
  induction n with
  | zero => rfl
  | succ n ih =>
    rw [stateAt_succ, stateAt_succ, progressAt, ih, step_replacing alone read name single other clean]

/-- In a script without diagnostics any other name may stand in the place of one that stands by itself: the run has
the same events, and ends in the same state. -/
theorem run_replacing : (script.replacing i u).run = script.run := by
  have size : (script.replacing i u).size = script.size := List.length_set
  have steps (n : Nat) : (script.replacing i u).progressAt n = script.progressAt n := by
    rw [progressAt, stateAt_replacing alone read name single other clean,
      step_replacing alone read name single other clean]
  have state : (script.replacing i u).run.state = script.run.state := by
    rw [run_state, run_state, size, stateAt_replacing alone read name single other clean]
  have events : (script.replacing i u).run.events = script.run.events := by
    rw [run_events, run_events, size]
    simp only [steps]
  calc (script.replacing i u).run
      = ⟨(script.replacing i u).run.state, (script.replacing i u).run.events⟩ := rfl
    _ = script.run := by rw [state, events]

end

end Script

end ScriptCheck
