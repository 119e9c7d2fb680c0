import ScriptCheck.Proofs.Run.Calls

/-! # Where a statement begins

A call that is given up skips no end of a statement, so no position at which a statement begins is
skipped (`Script.resume_stateAt_le`). The refused positions are those of names behind a type keyword
that have been passed, and once refused a position stays refused.
-/

namespace ScriptCheck

/-- The end of a statement is a semicolon or a brace: neither an operator nor a type keyword. -/
theorem Kind.operator?_of_endsStatement {kind : Kind} (ends : kind.endsStatement = true) :
    kind.operator? = none := by
  cases kind <;> first | rfl | cases ends

theorem Kind.declares?_of_endsStatement {kind : Kind} (ends : kind.endsStatement = true) :
    kind.declares? = none := by
  cases kind <;> first | rfl | cases ends

namespace Script

variable {script : Script} {i e p : Nat} {t keyword : Token}

/-- A statement begins at `p`: nothing stands before it, or the end of another statement. -/
def StartsStatement (script : Script) (p : Nat) : Prop :=
  ∀ t ∈ script.before? p 1, t.kind.endsStatement = true

instance (script : Script) (p : Nat) : Decidable (script.StartsStatement p) :=
  inferInstanceAs (Decidable (∀ t ∈ script.before? p 1, t.kind.endsStatement = true))

/-! ### Skipped positions -/

/-- The check goes on no later than at the end of a statement. -/
theorem resume_stateAt_le (found : script.tokens[e]? = some t) (ends : t.kind.endsStatement = true)
    (i : Nat) : i ≤ e + 1 → (script.stateAt i).resume ≤ e := by
  refine script.stateAt_induct (motive := fun i state => i ≤ e + 1 → state.resume ≤ e) ?_ ?_ i
  · intro _
    exact Nat.zero_le e
  · intro i ih within
    rcases script.calls_step (script.stateAt i) i with
      ⟨_, _, same⟩ | ⟨callee, table, _, calls, _, _, _, resume⟩
    · rw [progressAt, same]
      exact ih (by omega)
    · rw [progressAt, resume]
      exact Nat.max_le.mpr ⟨ih (by omega), resume_evaluate_le calls (by omega) found ends⟩

theorem resume_le_of_startsStatement (starts : script.StartsStatement p)
    (inside : p ≤ script.tokens.length) : (script.stateAt p).resume ≤ p := by
  cases p with
  | zero => exact Nat.le_refl 0
  | succ e =>
    have found : script.tokens[e]? = some script.tokens[e] := List.getElem?_eq_getElem inside
    have ends := starts script.tokens[e] (by simp [before?])
    exact Nat.le_succ_of_le (resume_stateAt_le found ends (e + 1) (Nat.le_refl _))

/-- A statement that begins with a type keyword is read on behind it. -/
theorem resume_succ_of_startsStatement (starts : script.StartsStatement p)
    (read : script.tokens[p]? = some keyword) (type : keyword.isType = true) :
    (script.stateAt (p + 1)).resume ≤ p + 1 := by
  have ahead := resume_le_of_startsStatement starts
    (Nat.le_of_lt (List.getElem?_eq_some_iff.mp read).1)
  rcases script.calls_step (script.stateAt p) p with ⟨_, _, same⟩ | ⟨_, _, _, callee, _, _, _, _⟩
  · rw [stateAt_succ, progressAt, same]
    omega
  · refine absurd callee (not_isCallee_of_kind read ?_)
    intro kind
    simp [Token.isType, Kind.declares?, kind] at type

/-! ### Refused positions -/

private theorem refused_step {state : State} {r : Nat} (member : r ∈ state.refused) (i : Nat) :
    r ∈ (script.step state i).state.refused := by
  cases script.moves_step state i with
  | quiet notes | stores _ _ _ _ _ _ notes | aims _ _ _ _ _ notes | folds _ _ _ _ _ _ _ _ _ notes =>
    rw [notes.refused]
    exact member
  | @declares _ current type _ _ _ notes =>
    rw [notes.refused]
    rcases state.declare_cases ⟨i, current⟩ type with same | ⟨_, _, same⟩ | same <;> rw [same]
    · exact member
    · exact member
    · exact List.mem_append_left _ member

/-- Once refused, a position stays refused. -/
theorem refused_stateAt {r : Nat} (member : r ∈ (script.stateAt i).refused) (later : i ≤ e) :
    r ∈ (script.stateAt e).refused := by
  induction e with
  | zero =>
    obtain rfl : i = 0 := by omega
    exact member
  | succ e ih =>
    rcases Nat.eq_or_lt_of_le later with rfl | before
    · exact member
    · rw [stateAt_succ]
      exact refused_step (ih (by omega)) e

/-- A refused position has been passed. -/
theorem lt_of_mem_refused (script : Script) (i : Nat) :
    ∀ r ∈ (script.stateAt i).refused, r < i := by
  refine script.stateAt_induct (motive := fun i state => ∀ r ∈ state.refused, r < i) (by simp) ?_ i
  intro i ih r member
  have passed : r ∈ (script.stateAt i).refused → r < i + 1 := by
    intro earlier
    exact Nat.lt_succ_of_lt (ih r earlier)
  cases script.moves_step (script.stateAt i) i with
  | quiet notes | stores _ _ _ _ _ _ notes | aims _ _ _ _ _ notes | folds _ _ _ _ _ _ _ _ _ notes =>
    rw [progressAt, notes.refused] at member
    exact passed member
  | @declares _ current type _ _ _ notes =>
    rw [progressAt, notes.refused] at member
    rcases (script.stateAt i).declare_cases ⟨i, current⟩ type with same | ⟨_, _, same⟩ | same <;>
      rw [same] at member
    · exact passed member
    · exact passed member
    · rcases List.mem_append.mp member with earlier | now
      · exact passed earlier
      · obtain rfl := List.mem_singleton.mp now
        exact Nat.lt_succ_self r

/-- A refused position is that of a name. -/
theorem exists_name_of_mem_refused (script : Script) (i : Nat) :
    ∀ r ∈ (script.stateAt i).refused, ∃ t, script.tokens[r]? = some t ∧ t.isName = true := by
  refine script.stateAt_induct (motive := fun _ state => ∀ r ∈ state.refused,
    ∃ t, script.tokens[r]? = some t ∧ t.isName = true) (by simp) ?_ i
  intro i ih r member
  cases script.moves_step (script.stateAt i) i with
  | quiet notes | stores _ _ _ _ _ _ notes | aims _ _ _ _ _ notes | folds _ _ _ _ _ _ _ _ _ notes =>
    rw [progressAt, notes.refused] at member
    exact ih r member
  | @declares _ current type _ read _ notes =>
    rw [progressAt, notes.refused] at member
    by_cases name : current.isName = true
    · rcases (script.stateAt i).declare_cases ⟨i, current⟩ type with same | ⟨_, _, same⟩ | same <;>
        rw [same] at member
      · exact ih r member
      · exact ih r member
      · rcases List.mem_append.mp member with earlier | now
        · exact ih r earlier
        · obtain rfl := List.mem_singleton.mp now
          exact ⟨current, read, name⟩
    · simp only [State.declare, name, Bool.not_false, if_true] at member
      exact ih r member

end Script

end ScriptCheck
