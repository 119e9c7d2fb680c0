import ScriptCheck.Proofs.Call.Reading
import ScriptCheck.Proofs.Part.Call

/-! # A script inside another one

A script can be looked at as a part of a longer one. Where it meets the other tokens a statement ends, and no
look from inside goes past such an end: not the look at the next token, not the reading of a call, not the
search for the nearest variable. So each of them comes to the same in the longer script as in the part alone.
-/

namespace ScriptCheck

namespace Script

/-- The script with other tokens before it and behind it. -/
def within (script : Script) (front behind : List Token) : Script :=
  ⟨front ++ script.tokens ++ behind, script.natives⟩

/-- Where the script meets other tokens, the end of a statement stands: first in the script if tokens stand
before it, and last in the script if tokens stand behind it. -/
structure Closed (script : Script) (front behind : List Token) : Prop where
  first : front = [] ∨ ∃ t, script.tokens[0]? = some t ∧ t.kind.endsStatement = true
  last : behind = [] ∨ ∃ t, script.tokens.getLast? = some t ∧ t.kind.endsStatement = true

variable {script : Script} {front behind : List Token} {k : Nat} {t : Token}

theorem getElem?_within (inside : k < script.tokens.length) :
    (script.within front behind).tokens[front.length + k]? = script.tokens[k]? := by
  rw [within, List.append_assoc, List.getElem?_append_right (Nat.le_add_right ..),
    Nat.add_sub_cancel_left, List.getElem?_append_left inside]

/-- A look back that ends inside the script, or before the beginning of both. -/
theorem before?_within {back : Nat} (reaches : front = [] ∨ back ≤ k) (inside : k < script.tokens.length) :
    (script.within front behind).before? (front.length + k) back = script.before? k back := by
  have read : (script.within front behind).tokens[front.length + (k - back)]? =
      script.tokens[k - back]? := getElem?_within (Nat.lt_of_le_of_lt (Nat.sub_le ..) inside)
  rcases reaches with rfl | reaches
  · rw [List.length_nil, Nat.zero_add] at read ⊢
    rw [before?, before?, read]
  · rw [before?, before?, if_pos reaches, if_pos (Nat.le_add_left_of_le reaches),
      Nat.add_sub_assoc reaches, read]

private theorem drop_within (inside : k ≤ script.tokens.length) :
    (script.within front behind).tokens.drop (front.length + k) = script.tokens.drop k ++ behind := by
  rw [within, List.append_assoc, List.drop_append, List.drop_eq_nil_of_le (Nat.le_add_right ..),
    Nat.add_sub_cancel_left, List.nil_append, List.drop_append_of_le_length inside]

/-- The token at the last position ends a statement if tokens stand behind the script. -/
theorem Closed.ends_of_last (closed : script.Closed front behind) (later : behind ≠ [])
    (read : script.tokens[k]? = some t) (last : k + 1 = script.tokens.length) :
    t.kind.endsStatement = true := by
  rcases closed.last with nothing | ⟨u, found, ends⟩
  · exact absurd nothing later
  · rw [List.getLast?_eq_getElem?, ← last, Nat.add_sub_cancel, read] at found
    obtain rfl := Option.some.inj found
    exact ends

private theorem Closed.sealed (closed : script.Closed front behind) (inside : k < script.tokens.length) :
    Sealed (script.tokens.drop k) behind := by
  rcases closed.last with nothing | ⟨u, found, ends⟩
  · exact .inl nothing
  · refine .inr ⟨u, List.mem_of_getLast? ?_, ends⟩
    rw [List.getLast?_drop, if_neg (Nat.not_le.mpr inside), found]

theorem isCallee_within (closed : script.Closed front behind) (inside : k < script.tokens.length) :
    (script.within front behind).isCallee (front.length + k) = script.isCallee k := by
  have read := List.getElem?_eq_getElem inside
  rw [isCallee, isCallee, getElem?_within inside, read, Option.any_some, Option.any_some]
  by_cases next : k + 1 < script.tokens.length
  · rw [Nat.add_assoc, getElem?_within next]
  · -- The last token is no callee: nothing stands behind it, or it ends a statement.
    have last : k + 1 = script.tokens.length := by omega
    rw [List.getElem?_eq_none (Nat.le_of_eq last.symm)]
    by_cases later : behind = []
    · subst later
      rw [List.getElem?_eq_none (by simp [within]; omega)]
    · have name := Token.not_isName_of_endsStatement (closed.ends_of_last later read last)
      simp [opensCall, name]

/-- A call comes to the same in the longer script. -/
theorem evaluate_within (closed : script.Closed front behind) (callee : script.isCallee k = true)
    (table : Table) (t : Token) :
    CallResult.Shifted front.length
      ((script.within front behind).evaluate table (front.length + k) t) (script.evaluate table k t) := by
  obtain ⟨_, u, _, _, next, kind⟩ := isCallee_iff.mp callee
  have inside := (List.getElem?_eq_some_iff.mp next).1
  have sealed : Sealed (script.tokens.drop (k + 2)) behind := by
    rcases closed.sealed inside with nothing | ⟨v, member, ends⟩
    · exact .inl nothing
    · rw [List.drop_eq_getElem_cons inside, List.mem_cons] at member
      rcases member with rfl | member
      · rw [← (List.getElem?_eq_some_iff.mp next).2] at kind
        simp [kind, Kind.endsStatement, Kind.isScope] at ends
      · exact .inr ⟨v, member, ends⟩
  have reading := readCall_shift script.natives table sealed front.length (k + 2) .first
    ⟨⟨k, t⟩, [], true⟩ []
  have tokens : (script.within front behind).tokens.drop (front.length + (k + 2)) =
      script.tokens.drop (k + 2) ++ behind := drop_within inside
  rw [evaluate, evaluate, Nat.add_assoc, tokens]
  exact reading.meeting k

/-- The nearest variable is the same one, and none is found past the end of a statement. -/
theorem nearest?_within (closed : script.Closed front behind) (visited : front = [] ∨ 1 ≤ k)
    (inside : k ≤ script.tokens.length) (depth : Nat) :
    (script.within front behind).nearest? depth (front.length + k) =
      (script.nearest? depth k).map (front.length + ·) := by
  induction k generalizing depth with
  | zero =>
    obtain rfl : front = [] := by simpa using visited
    rfl
  | succ k ih =>
    have read := List.getElem?_eq_getElem (Nat.lt_of_succ_le inside)
    rw [← Nat.add_assoc, nearest?, nearest?, getElem?_within inside, isCallee_within closed inside, read]
    dsimp only
    split
    · rfl
    rename_i within
    have onward : front = [] ∨ 1 ≤ k := by
      rcases closed.first with nothing | ⟨u, first, ends⟩
      · exact .inl nothing
      · right
        apply Nat.pos_of_ne_zero
        rintro rfl
        rw [read] at first
        rw [Option.some.inj first] at within
        exact within ends
    have back := fun depth => ih onward (Nat.le_of_succ_le inside) depth
    repeat' split
    all_goals first | rfl | exact back _

end Script

end ScriptCheck
