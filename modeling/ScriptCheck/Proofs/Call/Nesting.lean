import ScriptCheck.Proofs.Call.Reading
import ScriptCheck.Proofs.Token.Weights

/-! # The parentheses of a call

The reader of calls counts no parentheses: it keeps the open calls on a stack. Here the two are tied
together. Each open call has as many unclosed parentheses behind its name as there are calls above it,
itself included, so the parenthesis that closes a call is the one that matches its opening one.
-/

namespace ScriptCheck

namespace Script

/-- The parentheses that are opened from position `o` on and still open before position `r`. -/
def nesting (script : Script) (o r : Nat) : Int :=
  Token.total Kind.paren ((script.tokens.take r).drop o)

theorem nesting_self (script : Script) (o : Nat) : script.nesting o o = 0 := by
  rw [nesting, List.drop_eq_nil_of_le (List.length_take_le ..)]
  rfl

theorem nesting_succ {script : Script} {o r : Nat} {t : Token} (before : o ≤ r)
    (found : script.tokens[r]? = some t) :
    script.nesting o (r + 1) = script.nesting o r + t.kind.paren := by
  obtain ⟨inside, _⟩ := List.getElem?_eq_some_iff.mp found
  have reaches : o ≤ (script.tokens.take r).length := by
    rw [List.length_take, Nat.min_eq_left (Nat.le_of_lt inside)]
    exact before
  rw [nesting, nesting, List.take_add_one, found, Option.toList_some,
    List.drop_append_of_le_length reaches, Token.total_append]
  simp [Token.total]

/-- The parentheses at `o` and `c` match: from the first one on, the nesting comes back to zero behind
the second one and not before. -/
structure Matches (script : Script) (o c : Nat) : Prop where
  ordered : o < c
  opening : ∃ t, script.tokens[o]? = some t ∧ t.kind = .openParen
  closing : ∃ t, script.tokens[c]? = some t ∧ t.kind = .closeParen
  inside : ∀ r, o < r → r ≤ c → 0 < script.nesting o r
  level : script.nesting o (c + 1) = 0

/-- A parenthesis is matched by at most one other. -/
theorem Matches.unique {script : Script} {o c d : Nat} (first : script.Matches o c)
    (second : script.Matches o d) : c = d := by
  have notBefore : ∀ {c d : Nat}, script.Matches o c → script.Matches o d → ¬ c < d := by
    intro c d first second before
    have := second.inside (c + 1) (Nat.lt_succ_of_lt first.ordered) before
    rw [first.level] at this
    omega
  have := notBefore first second
  have := notBefore second first
  omega

/-- An open call as it is seen from `position`, with `depth` unclosed parentheses behind its name. -/
structure Opened (script : Script) (depth : Int) (position : Nat) (frame : Frame) : Prop where
  callee : script.tokens[frame.callee.position]? = some frame.callee.token
  calls : script.isCallee frame.callee.position = true
  behind : frame.callee.position + 1 ≤ position
  depth_eq : script.nesting (frame.callee.position + 1) position = depth
  inside : ∀ r, frame.callee.position + 1 < r → r ≤ position →
    0 < script.nesting (frame.callee.position + 1) r

namespace Opened

variable {script : Script} {depth : Int} {position : Nat} {frame : Frame} {t : Token}

/-- What the call has gathered plays no part. -/
theorem congr {other : Frame} (opened : script.Opened depth position frame)
    (same : other.callee = frame.callee) : script.Opened depth position other := by
  obtain ⟨callee, args, complete⟩ := other
  obtain rfl : callee = frame.callee := same
  exact ⟨opened.callee, opened.calls, opened.behind, opened.depth_eq, opened.inside⟩

/-- Reading on inside the call. -/
theorem next (opened : script.Opened depth position frame)
    (read : script.tokens[position]? = some t) (deeper : Int) (moved : depth + t.kind.paren = deeper)
    (stays : 0 < deeper) : script.Opened deeper (position + 1) frame := by
  have total : script.nesting (frame.callee.position + 1) (position + 1) = deeper := by
    rw [nesting_succ opened.behind read, opened.depth_eq, moved]
  refine ⟨opened.callee, opened.calls, Nat.le_succ_of_le opened.behind, total, ?_⟩
  intro r later within
  rcases Nat.eq_or_lt_of_le within with rfl | within
  · rw [total]
    exact stays
  · exact opened.inside r later (by omega)

/-- The parenthesis that closes an open call matches the one behind its name. -/
theorem closes (opened : script.Opened 1 position frame)
    (read : script.tokens[position]? = some t) (kind : t.kind = .closeParen) :
    script.Matches (frame.callee.position + 1) position := by
  obtain ⟨_, u, _, _, next, opening⟩ := isCallee_iff.mp opened.calls
  have ordered : frame.callee.position + 1 < position := by
    apply Nat.lt_of_le_of_ne opened.behind
    intro same
    have nested := opened.depth_eq
    rw [← same, nesting_self] at nested
    omega
  refine ⟨ordered, ⟨u, next, opening⟩, ⟨t, read, kind⟩, opened.inside, ?_⟩
  rw [nesting_succ opened.behind read, opened.depth_eq, kind]
  rfl

/-- A call that has just been met has no parenthesis behind its name yet. -/
theorem met (read : script.tokens[position]? = some t) (calls : script.isCallee position = true) :
    script.Opened 0 (position + 1) ⟨⟨position, t⟩, [], true⟩ := by
  refine ⟨read, calls, Nat.le_refl _, script.nesting_self _, ?_⟩
  intro r later within
  change position + 1 < r at later
  omega

end Opened

/-- The open calls, the innermost first: each has one unclosed parenthesis more than the one on top of
it. -/
def OpenedAll (script : Script) (position : Nat) : Int → List Frame → Prop
  | _, [] => True
  | depth, frame :: below =>
    script.Opened depth position frame ∧ script.OpenedAll position (depth + 1) below

theorem OpenedAll.next {script : Script} {position : Nat} {t : Token}
    (read : script.tokens[position]? = some t) {depth : Int} {frames : List Frame}
    (opened : script.OpenedAll position depth frames) (deeper : Int)
    (moved : depth + t.kind.paren = deeper)
    (stays : 0 < deeper) : script.OpenedAll (position + 1) deeper frames := by
  induction frames generalizing depth deeper with
  | nil => trivial
  | cons frame below ih =>
    exact ⟨opened.1.next read deeper moved stays, ih opened.2 _ (by omega) (by omega)⟩

end Script

/-! ### What a frame remembers -/

@[simp] theorem Frame.take_callee (table : Table) (frame : Frame) (site : Site) :
    (frame.take table site).1.callee = frame.callee := by
  unfold Frame.take
  split
  · rfl
  · split <;> rfl

@[simp] theorem Frame.receive_callee (frame : Frame) (site : Site) (outcome : Outcome) :
    (frame.receive site outcome).1.callee = frame.callee := by
  cases outcome <;> rfl

end ScriptCheck
