import ScriptCheck.Proofs.Call.Order

/-! # Terms

An operand or an argument is a single value or a call, and the arguments of a call are terms again. The
reader of calls keeps its open calls on a stack; `readCall_term` shows that it passes the tokens of a term
as a recursive descent over the term does. Every call that derives from the grammar is thereby read to its
end (`Script.evaluate_bare`, `Script.evaluate_call`).
-/

namespace ScriptCheck

structure Mark (kind : Kind) where
  token : Token
  is : token.kind = kind

mutual

/-- A single value, a call without arguments, or a call with some. -/
inductive Term where
  | single (t : Token) (value : t.isValue = true)
  | bare (callee : Token) (name : callee.isName = true) (opening : Mark .openParen)
      (close : Mark .closeParen)
  | call (callee : Token) (name : callee.isName = true) (opening : Mark .openParen)
      (args : Arguments) (close : Mark .closeParen)

/-- Terms with commas between them. -/
inductive Arguments where
  | last (term : Term)
  | more (term : Term) (comma : Mark .comma) (rest : Arguments)

end

mutual

def Term.tokens : Term → List Token
  | .single t _ => [t]
  | .bare callee _ opening close => [callee, opening.token, close.token]
  | .call callee _ opening args close => callee :: opening.token :: (args.tokens ++ [close.token])

/-- The tokens of some arguments, without the parentheses around them. -/
def Arguments.tokens : Arguments → List Token
  | .last term => term.tokens
  | .more term comma rest => term.tokens ++ comma.token :: rest.tokens

end

theorem Term.length_tokens_pos (term : Term) : 0 < term.tokens.length := by
  cases term <;> simp [tokens]

/-! ### The recursive descent -/

/-- What passing a part of an argument list comes to: the call around it, what happened, and the callees
that were met. -/
structure Passage where
  frame : Frame
  events : List Event := []
  callees : List Nat := []

namespace Passage

def enter (callee : Site) : Passage := ⟨⟨callee, [], true⟩, [], [callee.position]⟩

/-- Closes the passed call at position `close` and hands its outcome to the call around it. -/
def close (natives : Registry) (position : Nat) (parent : Frame) (inner : Passage) : Passage :=
  let ran := inner.frame.run natives position
  let heard := parent.receive inner.frame.callee ran.1
  ⟨heard.1, inner.events ++ (ran.2 ++ heard.2), inner.callees⟩

/-- Puts what was passed earlier in front. -/
def behind (earlier later : Passage) : Passage :=
  ⟨later.frame, earlier.events ++ later.events, earlier.callees ++ later.callees⟩

end Passage

mutual

/-- Passes a term that begins at `position`, as an argument of the call `frame`. -/
def Term.pass (natives : Registry) (table : Table) : Term → Nat → Frame → Passage
  | .single t _, position, frame =>
    ⟨(frame.take table ⟨position, t⟩).1, (frame.take table ⟨position, t⟩).2, []⟩
  | .bare callee _ _ _, position, frame =>
    .close natives (position + 2) frame (.enter ⟨position, callee⟩)
  | .call callee _ _ args _, position, frame =>
    let entered := Passage.enter ⟨position, callee⟩
    .close natives (position + 2 + args.tokens.length) frame
      (entered.behind (args.pass natives table (position + 2) entered.frame))

def Arguments.pass (natives : Registry) (table : Table) : Arguments → Nat → Frame → Passage
  | .last term, position, frame => term.pass natives table position frame
  | .more term _ rest, position, frame =>
    let first := term.pass natives table position frame
    first.behind (rest.pass natives table (position + term.tokens.length + 1) first.frame)

end

/-- Puts what was passed in front of what is read behind it. -/
def CallResult.following (passage : Passage) (result : CallResult) : CallResult :=
  { result with
    events := passage.events ++ result.events
    callees := passage.callees ++ result.callees }

private theorem CallResult.following_behind (earlier later : Passage) (result : CallResult) :
    result.following (earlier.behind later) = (result.following later).following earlier := by
  simp [following, Passage.behind]

/-! ### One token of the reader -/

section Reader

variable {natives : Registry} {table : Table} {t : Token} {rest : List Token} {position : Nat}
  {expected : Expected} {top : Frame} {below : List Frame}

theorem readCall_value (value : t.isValue = true) (begins : expected.Begins)
    (single : Script.opensCall t rest.head? = false) :
    readCall natives table (t :: rest) position expected top below =
      (readCall natives table rest (position + 1) .separator (top.take table ⟨position, t⟩).1
        below).after (top.take table ⟨position, t⟩).2 := by
  have notClose : t.kind ≠ .closeParen := by
    intro kind
    simp [Token.isValue, Kind.isValue, kind] at value
  rcases begins with rfl | rfl <;>
    simp [readCall, Token.not_endsStatement_of_isValue value, notClose, single, value]

theorem readCall_callee (calls : Script.opensCall t rest.head? = true) (begins : expected.Begins) :
    readCall natives table (t :: rest) position expected top below =
      (readCall natives table rest (position + 1) .opening ⟨⟨position, t⟩, [], true⟩
        (top :: below)).meeting position := by
  have name := (Script.opensCall_iff.mp calls).1
  have kind := (Token.isName_iff.mp name).1
  rcases begins with rfl | rfl <;>
    simp [readCall, kind, Kind.endsStatement, Kind.isScope, calls]

theorem readCall_opening (kind : t.kind = .openParen) :
    readCall natives table (t :: rest) position .opening top below =
      readCall natives table rest (position + 1) .first top below := by
  simp [readCall, kind, Kind.endsStatement, Kind.isScope]

theorem readCall_comma (kind : t.kind = .comma) :
    readCall natives table (t :: rest) position .separator top below =
      readCall natives table rest (position + 1) .argument top below := by
  simp [readCall, kind, Kind.endsStatement, Kind.isScope]

theorem readCall_close (kind : t.kind = .closeParen)
    (ends : expected.Ends) :
    readCall natives table (t :: rest) position expected top [] =
      { outcome := (top.run natives position).1, close := some position,
        events := (top.run natives position).2 } := by
  rcases ends with rfl | rfl <;> simp [readCall, kind, Kind.endsStatement, Kind.isScope]

theorem readCall_closeInner {parent : Frame} {others : List Frame} (kind : t.kind = .closeParen)
    (ends : expected.Ends) :
    readCall natives table (t :: rest) position expected top (parent :: others) =
      (readCall natives table rest (position + 1) .separator
        (parent.receive top.callee (top.run natives position).1).1 others).after
          ((top.run natives position).2 ++
            (parent.receive top.callee (top.run natives position).1).2) := by
  rcases ends with rfl | rfl <;> simp [readCall, kind, Kind.endsStatement, Kind.isScope]

end Reader

/-! ### The reader follows the descent -/

private theorem Term.opensCall {callee : Token} (name : callee.isName = true) (opening : Mark .openParen)
    (after : List Token) :
    Script.opensCall callee (opening.token :: after).head? = true :=
  Script.opensCall_iff.mpr ⟨name, opening.token, rfl, opening.is⟩

mutual

/-- The reader passes the tokens of a term as the descent does, unless the term is a single name and a
parenthesis behind it makes it a callee. -/
theorem readCall_term (natives : Registry) (table : Table) (term : Term) {after : List Token}
    {position : Nat} {expected : Expected} (top : Frame) (below : List Frame)
    (begins : expected.Begins) (apart : ∀ t ∈ after.head?, t.kind ≠ .openParen) :
    readCall natives table (term.tokens ++ after) position expected top below =
      (readCall natives table after (position + term.tokens.length) .separator
        (term.pass natives table position top).frame below).following
          (term.pass natives table position top) := by
  cases term with
  | single t value =>
    have single : Script.opensCall t after.head? = false := by
      apply Bool.eq_false_iff.mpr
      intro calls
      obtain ⟨_, u, next, opens⟩ := Script.opensCall_iff.mp calls
      exact apart u next opens
    rw [Term.tokens, List.singleton_append, readCall_value value begins single]
    rfl
  | bare callee name opening close =>
    simp only [Term.tokens, List.cons_append, List.nil_append]
    rw [readCall_callee (Term.opensCall name opening _) begins, readCall_opening opening.is,
      readCall_closeInner close.is (.inl rfl)]
    rfl
  | call callee name opening args close =>
    have reaches : position + (callee :: opening.token :: (args.tokens ++ [close.token])).length =
        position + 2 + args.tokens.length + 1 := by
      simp only [List.length_cons, List.length_append, List.length_nil]
      omega
    simp only [Term.tokens, List.cons_append, List.append_assoc] at reaches ⊢
    rw [reaches, readCall_callee (Term.opensCall name opening _) begins, readCall_opening opening.is,
      readCall_arguments natives table args _ _ (.inl rfl) (by simp [close.is]),
      List.nil_append, readCall_closeInner close.is (.inr rfl)]
    simp only [CallResult.following, CallResult.after, CallResult.meeting, Term.pass, Passage.close,
      Passage.enter, Passage.behind, List.append_assoc, List.nil_append, List.singleton_append]
    rfl

private theorem readCall_arguments (natives : Registry) (table : Table) (args : Arguments)
    {after : List Token} {position : Nat} {expected : Expected} (top : Frame) (below : List Frame)
    (begins : expected.Begins) (apart : ∀ t ∈ after.head?, t.kind ≠ .openParen) :
    readCall natives table (args.tokens ++ after) position expected top below =
      (readCall natives table after (position + args.tokens.length) .separator
        (args.pass natives table position top).frame below).following
          (args.pass natives table position top) := by
  cases args with
  | last term => exact readCall_term natives table term top below begins apart
  | more term comma rest =>
    rw [Arguments.tokens, List.append_assoc, readCall_term natives table term top below begins ?_,
      List.cons_append, readCall_comma comma.is,
      readCall_arguments natives table rest _ _ (.inr rfl) apart]
    · rw [Arguments.pass, CallResult.following_behind, List.length_append, List.length_cons]
      simp only [Passage.behind, Nat.add_assoc, Nat.add_comm 1]
    · simp [comma.is]

end

/-! ### Terms of a script -/

/-- The tokens `ts` stand in the script from position `p` on. -/
def Script.Stands (script : Script) (p : Nat) (ts : List Token) : Prop := ts <+: script.tokens.drop p

instance (script : Script) (p : Nat) (ts : List Token) : Decidable (script.Stands p ts) :=
  inferInstanceAs (Decidable (ts <+: script.tokens.drop p))

namespace Script

variable {script : Script} {p : Nat}

theorem stands_append {front back : List Token} :
    script.Stands p (front ++ back) ↔ script.Stands p front ∧ script.Stands (p + front.length) back := by
  unfold Stands
  rw [← List.drop_drop]
  constructor
  · rintro ⟨rest, whole⟩
    rw [← whole, List.append_assoc, List.drop_left]
    exact ⟨List.prefix_append .., List.prefix_append ..⟩
  · rintro ⟨⟨rest, whole⟩, behind⟩
    rw [← whole, List.drop_left] at behind
    rw [← whole]
    exact (List.prefix_append_right_inj front).mpr behind

theorem stands_cons {t : Token} {ts : List Token} :
    script.Stands p (t :: ts) ↔ script.tokens[p]? = some t ∧ script.Stands (p + 1) ts := by
  unfold Stands
  rw [← List.head?_drop, ← List.tail_drop]
  cases script.tokens.drop p with
  | nil => simp
  | cons u rest => simp [List.cons_prefix_cons, eq_comm]

/-- What evaluating the call comes to that is passed up to its closing parenthesis at `e`. -/
def closing (script : Script) (e : Nat) (inner : Passage) : CallResult :=
  let ran := inner.frame.run script.natives e
  { outcome := ran.1, close := some e, events := inner.events ++ ran.2, callees := inner.callees }

theorem evaluate_bare (table : Table) {callee : Token} {name : callee.isName = true}
    {opening : Mark .openParen} {close : Mark .closeParen}
    (stands : script.Stands p (Term.bare callee name opening close).tokens) :
    script.evaluate table p callee = script.closing (p + 2) (.enter ⟨p, callee⟩) := by
  obtain ⟨_, stands⟩ := stands_cons.mp stands
  obtain ⟨_, rest, behind⟩ := stands_cons.mp stands
  rw [evaluate, ← behind, List.singleton_append, readCall_close close.is (.inl rfl)]
  rfl

theorem evaluate_call (table : Table) {callee : Token} {name : callee.isName = true}
    {opening : Mark .openParen} {args : Arguments} {close : Mark .closeParen}
    (stands : script.Stands p (Term.call callee name opening args close).tokens) :
    script.evaluate table p callee = script.closing (p + 2 + args.tokens.length)
      ((Passage.enter ⟨p, callee⟩).behind
        (args.pass script.natives table (p + 2) (Passage.enter ⟨p, callee⟩).frame)) := by
  obtain ⟨_, stands⟩ := stands_cons.mp stands
  obtain ⟨_, rest, behind⟩ := stands_cons.mp stands
  rw [evaluate, ← behind, List.append_assoc,
    readCall_arguments script.natives table args _ [] (.inl rfl) (by simp [close.is]),
    List.singleton_append, readCall_close close.is (.inr rfl)]
  simp [CallResult.meeting, CallResult.following, closing, Passage.enter, Passage.behind]

end Script

end ScriptCheck
