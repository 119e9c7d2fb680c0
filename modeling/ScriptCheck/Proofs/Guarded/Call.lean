import ScriptCheck.Proofs.Call.Handover

/-! # Evaluating calls by position

The reader of calls is handed the tokens that are left, one after the other, so it cannot look beside the script. Here a
call is evaluated by recursive descent instead, with nothing but positions: the loop over the arguments goes on behind
the closing parenthesis that a nested call came back with. Reading a token that is not there is a fault, and so is
going on with no fuel left. Whatever the tokens are, the descent comes to what the reader comes to, with no more fuel
than there are tokens left, and with less it runs out of fuel at worst (`Script.settles_guarded`).
-/

namespace ScriptCheck

/-- Why a check by position breaks off. -/
inductive Fault where
  /-- A token was to be read outside of the script. -/
  | outside (position : Int)
  /-- The fuel was used up. -/
  | exhausted
deriving DecidableEq, Repr

/-- A check by position comes to a value, and breaks off only for want of fuel. -/
inductive Settles {α : Type} (enough : Prop) (value : α) : Except Fault α → Prop
  | reached : Settles enough value (.ok value)
  | exhausted (short : ¬ enough) : Settles enough value (.error .exhausted)

namespace Settles

variable {α β : Type} {enough : Prop} {value : α} {x : Except Fault α}

/-- One part of a check follows another. -/
theorem bind {f : α → Except Fault β} {result : β} (first : Settles enough value x)
    (next : Settles enough result (f value)) : Settles enough result (x >>= f) := by
  cases first with
  | reached => exact next
  | exhausted short => exact .exhausted short

theorem mono {more : Prop} (settles : Settles enough value x) (suffice : more → enough) : Settles more value x := by
  cases settles with
  | reached => exact .reached
  | exhausted short => exact .exhausted (mt suffice short)

theorem eq_ok (settles : Settles enough value x) (fuel : enough) : x = .ok value := by
  cases settles with
  | reached => rfl
  | exhausted short => exact absurd fuel short

theorem eq_of_ok {other : α} (settles : Settles enough value x) (ok : x = .ok other) : other = value := by
  cases settles with
  | reached => exact (Except.ok.inj ok).symm
  | exhausted => cases ok

theorem ne_outside (settles : Settles enough value x) (position : Int) : x ≠ .error (.outside position) := by
  cases settles with
  | reached => exact nofun
  | exhausted => exact nofun

end Settles

/-! ### Results of calls -/

namespace CallResult

/-- A call that is given up because one of its arguments was. -/
def givenUp (result : CallResult) (resume : Nat) : CallResult :=
  { result with outcome := .failed, close := none, resume := max result.resume resume }

/-- Puts an argument that is a call in front, with what its outcome gave rise to. -/
def behind (nested : CallResult) (heard : List Event) (rest : CallResult) : CallResult :=
  { rest with
    events := nested.events ++ heard ++ rest.events
    callees := nested.callees ++ rest.callees
    resume := max nested.resume rest.resume }

end CallResult

namespace Script

/-! ### Reading by position -/

def tokenAt (script : Script) (i : Nat) : Except Fault Token :=
  match script.tokens[i]? with
  | some t => .ok t
  | none => .error (.outside i)

/-- Whether the token at a position, which has to be inside the script, is a callee. -/
def calleeAt (script : Script) (i : Nat) : Except Fault Bool := do
  let t ← script.tokenAt i
  .ok (opensCall t script.tokens[i + 1]?)

/-- The token at a position between the parentheses of a call, unless the statement or the script ends there. -/
def openToken? (script : Script) (j : Nat) : Option Token :=
  script.tokens[j]?.filter fun t => !t.kind.endsStatement

/-! ### The descent -/

def giveUp (script : Script) (frame : Frame) (problem : Problem) (j : Nat) : CallResult :=
  { outcome := .failed, close := none, events := [.reported ⟨frame.callee, problem⟩], resume := script.abandonEnd j }

def finish (script : Script) (frame : Frame) (j : Nat) : CallResult :=
  { outcome := (frame.run script.natives j).1, close := some j, events := (frame.run script.natives j).2 }

/-- What comes behind an argument: a comma and `more` arguments, or the end of the call. -/
def guardedSeparator (script : Script) (more : Frame → Nat → Except Fault CallResult) (frame : Frame) (j : Nat) :
    Except Fault CallResult :=
  match script.openToken? j with
  | none => .ok (script.giveUp frame (.unclosedCall frame.name) j)
  | some t =>
    if t.kind = .comma then more frame (j + 1)
    else if t.kind = .closeParen then .ok (script.finish frame j)
    else .ok (script.giveUp frame (.expectedSeparator frame.name t.text) j)

/-- Goes on behind an argument that is a call, from where that call ended. The call around it is given up with it. -/
def guardedPassage (script : Script) (more : Frame → Nat → Except Fault CallResult) (frame : Frame) (callee : Site)
    (nested : CallResult) : Except Fault CallResult :=
  match nested.close with
  | none => .ok (nested.givenUp (script.abandonEnd callee.position))
  | some e => do
    let heard := frame.receive callee nested.outcome
    let rest ← script.guardedSeparator more heard.1 (e + 1)
    .ok (nested.behind heard.2 rest)

mutual

def guardedCall (script : Script) (table : Table) : Nat → Nat → Except Fault CallResult
  | 0, _ => .error .exhausted
  | fuel + 1, p => do
    let t ← script.tokenAt p
    let frame : Frame := ⟨⟨p, t⟩, [], true⟩
    if script.tokens[p + 2]?.any fun u => u.kind == .closeParen then
      .ok ((script.finish frame (p + 2)).meeting p)
    else
      let result ← script.guardedArguments table fuel frame (p + 2)
      .ok (result.meeting p)

def guardedArguments (script : Script) (table : Table) : Nat → Frame → Nat → Except Fault CallResult
  | 0, _, _ => .error .exhausted
  | fuel + 1, frame, j =>
    match script.openToken? j with
    | none => .ok (script.giveUp frame (.unclosedCall frame.name) j)
    | some t => do
      if ← script.calleeAt j then
        let nested ← script.guardedCall table fuel j
        script.guardedPassage (script.guardedArguments table fuel) frame ⟨j, t⟩ nested
      else if t.isValue then
        let taken := frame.take table ⟨j, t⟩
        let rest ← script.guardedSeparator (script.guardedArguments table fuel) taken.1 (j + 1)
        .ok (rest.after taken.2)
      else .ok (script.giveUp frame (.expectedArgument frame.name t.text) j)

end

variable {script : Script} {table : Table} {fuel j p : Nat} {t : Token} {frame : Frame}

theorem tokenAt_eq (read : script.tokens[j]? = some t) : script.tokenAt j = .ok t := by
  rw [tokenAt, read]

theorem calleeAt_eq (read : script.tokens[j]? = some t) : script.calleeAt j = .ok (script.isCallee j) := by
  rw [calleeAt, tokenAt_eq read, isCallee, read]
  rfl

/-! ### What the reader does at a token -/

private theorem openToken?_eq_some_iff : script.openToken? j = some t ↔
    script.tokens[j]? = some t ∧ t.kind.endsStatement = false := by
  simp [openToken?, Option.filter_eq_some_iff]

/-- Where the statement or the script ends, the reader gives up. -/
theorem readCall_of_openToken?_eq_none {expected : Expected} {below : List Frame} (none : script.openToken? j = none) :
    readCall script.natives table (script.tokens.drop j) j expected frame below =
      .abandoned frame (.unclosedCall frame.name) j (script.tokens.drop j) := by
  cases read : script.tokens[j]? with
  | none =>
    rw [List.drop_eq_nil_of_le (List.getElem?_eq_none_iff.mp read)]
    rfl
  | some t =>
    cases ends : t.kind.endsStatement with
    | true => rw [drop_of_getElem? read, readCall, if_pos ends]
    | false =>
      rw [openToken?_eq_some_iff.mpr ⟨read, ends⟩] at none
      cases none

/-- Inside of the script, the reader gives up like the descent. -/
theorem abandoned_eq_giveUp {problem : Problem} (inside : j ≤ script.size) :
    CallResult.abandoned frame problem j (script.tokens.drop j) = script.giveUp frame problem j := by
  rw [CallResult.abandoned, statementEnd_eq_abandonEnd inside]
  rfl

/-- Behind the opening parenthesis the reader expects an argument, unless the list is empty. -/
theorem readCall_first {rest : List Token} {below : List Frame} (notClosed : ∀ u ∈ rest.head?, u.kind ≠ .closeParen) :
    readCall script.natives table rest j .first frame below =
      readCall script.natives table rest j .argument frame below := by
  cases rest with
  | nil => rfl
  | cons u rest => simp [readCall, notClosed u rfl]

/-- Behind an argument the reader may stand anywhere. -/
theorem drop_reads_separator (script : Script) (j : Nat) : script.Reads j .separator (script.tokens.drop j) :=
  ⟨rfl, by simp, by simp [Expected.Begins]⟩

/-! ### The descent follows the reader -/

/-- The loop over the arguments follows the reader. -/
def ArgumentsSettle (script : Script) (table : Table) (fuel : Nat) : Prop :=
  ∀ (frame : Frame) (j : Nat), script.Reads j .argument (script.tokens.drop j) → j ≤ script.size →
    Settles (script.size < fuel + j) (readCall script.natives table (script.tokens.drop j) j .argument frame [])
      (script.guardedArguments table fuel frame j)

/-- The evaluation of a call follows the reader. -/
def CallsSettle (script : Script) (table : Table) (fuel : Nat) : Prop :=
  ∀ (p : Nat) (t : Token), script.isCallee p = true → script.tokens[p]? = some t →
    Settles (script.size ≤ fuel + p) (script.evaluate table p t) (script.guardedCall table fuel p)

private theorem settles_separator (arguments : script.ArgumentsSettle table fuel)
    (reads : script.Reads j .separator (script.tokens.drop j)) (inside : j ≤ script.size) :
    Settles (script.size ≤ fuel + j) (readCall script.natives table (script.tokens.drop j) j .separator frame [])
      (script.guardedSeparator (script.guardedArguments table fuel) frame j) := by
  unfold guardedSeparator
  cases opened : script.openToken? j with
  | none =>
    rw [readCall_of_openToken?_eq_none opened, abandoned_eq_giveUp inside]
    exact .reached
  | some t =>
    obtain ⟨read, unbroken⟩ := openToken?_eq_some_iff.mp opened
    have within : j + 1 ≤ script.size := (List.getElem?_eq_some_iff.mp read).1
    rw [drop_of_getElem? read] at reads ⊢
    dsimp only
    split
    next comma =>
      rw [readCall_comma comma]
      have more := arguments frame (j + 1) (reads.begin (.inr comma) (by simp)) within
      exact more.mono fun enough => by omega
    next notComma =>
      split
      next close =>
        rw [readCall_close close (.inr rfl)]
        exact .reached
      next notClose =>
        rw [readCall, if_neg (by simp [unbroken]), if_neg (by simp), if_neg (by simp [notClose]), if_pos rfl,
          if_neg notComma, ← drop_of_getElem? read, abandoned_eq_giveUp inside]
        exact .reached

/-- A nested call is given up with the call around it, or the loop goes on behind it. -/
theorem settles_nested (calls : script.CallsSettle table fuel) (arguments : script.ArgumentsSettle table fuel)
    (callee : script.isCallee j = true) (read : script.tokens[j]? = some t) :
    Settles (script.size ≤ fuel + j) (script.handOver table ⟨j, t⟩ (script.evaluate table j t) [frame])
      (script.guardedCall table fuel j >>=
        script.guardedPassage (script.guardedArguments table fuel) frame ⟨j, t⟩) := by
  have reached := reached_evaluate table t callee
  refine (calls j t callee read).bind ?_
  generalize script.evaluate table j t = nested at reached ⊢
  obtain ⟨outcome, close, events, callees, resume⟩ := nested
  cases close with
  | none =>
    -- Both calls are given up at one place: neither the callee nor its opening parenthesis ends a statement.
    have same : script.abandonEnd (j + 2) = script.abandonEnd j := by
      obtain ⟨_, u, first, name, next, opens⟩ := isCallee_iff.mp callee
      rw [abandonEnd_succ next (by rw [opens]; rfl),
        abandonEnd_succ first (Token.not_endsStatement_of_isValue (Token.isValue_of_isName name))]
    obtain ⟨failed, skips⟩ := reached.abandoned rfl
    obtain rfl : outcome = .failed := failed
    obtain rfl : resume = script.abandonEnd j := skips.trans same
    simp only [guardedPassage, CallResult.givenUp, handOver, Nat.max_self]
    exact .reached
  | some e =>
    -- The loop goes on behind position `e`, which the nested call has put behind `j`.
    obtain ⟨behind, within, _, skips⟩ := reached.closed e rfl
    obtain rfl : resume = 0 := skips
    have separator := script.drop_reads_separator (e + 1)
    refine ((settles_separator arguments separator within).mono fun enough => by omega).bind ?_
    simp only [CallResult.behind, handOver, CallResult.following, Nat.zero_max]
    exact .reached

/-- The reader hands a nested call over to the call around it. -/
theorem readCall_nested {expected : Expected} (callee : script.isCallee j = true) (read : script.tokens[j]? = some t)
    (begins : expected.Begins) :
    readCall script.natives table (script.tokens.drop j) j expected frame [] =
      script.handOver table ⟨j, t⟩ (script.evaluate table j t) [frame] := by
  obtain ⟨_, u, first, name, next, opens⟩ := isCallee_iff.mp callee
  obtain rfl := Option.some.inj (read.symm.trans first)
  have calls : opensCall t (script.tokens.drop (j + 1)).head? = true := by
    rw [List.head?_drop]
    exact opensCall_iff.mpr ⟨name, u, next, opens⟩
  rw [drop_of_getElem? read, readCall_callee calls begins, drop_of_getElem? next, readCall_opening opens, evaluate,
    handOver_meeting]
  exact congrArg (CallResult.meeting j) (readCall_append table [frame] ⟨⟨j, t⟩, [], true⟩ [] (reads_of_isCallee callee))

private theorem argumentsSettle_succ (calls : script.CallsSettle table fuel)
    (arguments : script.ArgumentsSettle table fuel) :
    script.ArgumentsSettle table (fuel + 1) := by
  intro frame j reads inside
  rw [guardedArguments]
  cases opened : script.openToken? j with
  | none =>
    rw [readCall_of_openToken?_eq_none opened, abandoned_eq_giveUp inside]
    exact .reached
  | some t =>
    obtain ⟨read, unbroken⟩ := openToken?_eq_some_iff.mp opened
    have within : j + 1 ≤ script.size := (List.getElem?_eq_some_iff.mp read).1
    dsimp only
    rw [calleeAt_eq read]
    cases callee : script.isCallee j with
    | true =>
      rw [readCall_nested callee read (.inr rfl)]
      exact (settles_nested calls arguments callee read).mono fun enough => by omega
    | false =>
      have single : opensCall t (script.tokens.drop (j + 1)).head? = false := by
        rw [List.head?_drop, ← callee, isCallee, read, Option.any_some]
      rw [drop_of_getElem? read] at reads ⊢
      by_cases value : t.isValue = true
      · rw [readCall_value value (.inr rfl) single]
        change Settles _ _ (if t.isValue = true then _ else _)
        rw [if_pos value]
        have separator := script.drop_reads_separator (j + 1)
        exact ((settles_separator arguments separator within).mono fun enough => by omega).bind .reached
      · change Settles _ _ (if t.isValue = true then _ else _)
        rw [if_neg value, readCall, if_neg (by simp [unbroken]), if_neg (by simp), if_neg (by simp), if_neg (by simp),
          if_neg (ne_true_of_eq_false single), if_neg value, ← drop_of_getElem? read, abandoned_eq_giveUp inside]
        exact .reached

private theorem callsSettle_succ (arguments : script.ArgumentsSettle table fuel) :
    script.CallsSettle table (fuel + 1) := by
  intro p t callee read
  obtain ⟨_, _, _, _, next, _⟩ := isCallee_iff.mp callee
  have inside : p + 2 ≤ script.size := (List.getElem?_eq_some_iff.mp next).1
  have reads := reads_of_isCallee callee
  rw [guardedCall, tokenAt_eq read, evaluate]
  change Settles _ _ (if _ = true then _ else _)
  -- An empty list is closed without the loop; where there is an argument to come, both go on alike.
  cases closed : script.tokens[p + 2]?.any fun u => u.kind == .closeParen with
  | true =>
    obtain ⟨u, found, kind⟩ := (Option.any_eq_true _ _).mp closed
    rw [if_pos rfl, drop_of_getElem? found, readCall_close (by simpa using kind) (.inl rfl)]
    exact .reached
  | false =>
    have notClosed : ∀ u ∈ (script.tokens.drop (p + 2)).head?, u.kind ≠ .closeParen := by
      intro u found kind
      rw [List.head?_drop] at found
      rw [found] at closed
      simp [kind] at closed
    rw [if_neg (by simp), readCall_first notClosed]
    have list := arguments ⟨⟨p, t⟩, [], true⟩ (p + 2) ⟨rfl, by simp, fun _ => reads.argument (.inl rfl)⟩ inside
    exact (list.mono fun enough => by omega).bind .reached

/-- With any fuel, the descent follows the reader as far as it goes. -/
theorem settles_guarded (script : Script) (table : Table) (fuel : Nat) :
    script.CallsSettle table fuel ∧ script.ArgumentsSettle table fuel := by
  induction fuel with
  | zero =>
    constructor
    · intro p t _ read
      have inside : p < script.size := (List.getElem?_eq_some_iff.mp read).1
      exact .exhausted (by omega)
    · intro frame j _ inside
      exact .exhausted (by omega)
  | succ fuel ih => exact ⟨callsSettle_succ ih.2, argumentsSettle_succ ih.1 ih.2⟩

end Script

end ScriptCheck
