import ScriptCheck.Proofs.Run.Rules
import ScriptCheck.Proofs.Table.Headings

/-! # The declarations of a run

At one position a run leaves the headings of its table as they are or adds that of the name behind a type
keyword (`Script.headings_step`). So every variable was declared at a token that has been passed, with that
token's text and place and with the type of the keyword before it, and what it was declared as it stays.
-/

namespace ScriptCheck

namespace Script

variable {script : Script} {state : State} {i m n : Nat}

/-- The heading is that of the name at position `i`, which stands behind a type keyword. -/
def Declares (script : Script) (i : Nat) (heading : Heading) : Prop :=
  ∃ keyword d, script.before? i 1 = some keyword ∧ keyword.kind.declares? = some heading.type ∧
    script.tokens[i]? = some d ∧ d.isName = true ∧ d.text = heading.name ∧ d.scope = heading.scope

/-- A rule keeps the headings, or it adds the one that is declared at its position. -/
inductive Heads (script : Script) (state : State) (i : Nat) (table : Table) : Prop
  | keeps (distinct : table.Distinct) (same : table.headings = state.table.headings)
  | adds (distinct : table.Distinct) (heading : Heading) (declares : script.Declares i heading)
      (grows : table.headings = state.table.headings ++ [heading])

private theorem heads_declare {keyword current : Token} {type : ValueType}
    (distinct : state.table.Distinct) (before : script.before? i 1 = some keyword)
    (read : script.tokens[i]? = some current) (declares : keyword.kind.declares? = some type) :
    script.Heads state i (state.declare ⟨i, current⟩ type).state.table := by
  cases name : current.isName with
  | true =>
    rcases state.declare_cases ⟨i, current⟩ type with same | ⟨larger, declared, grows⟩ | same
    · rw [same]
      exact .keeps distinct rfl
    · rw [grows]
      refine .adds (Table.distinct_declare declared distinct) ⟨current.text, type, current.scope⟩ ?_
        (Table.headings_declare declared)
      exact ⟨keyword, current, before, declares, read, name, rfl, rfl⟩
    · rw [same]
      exact .keeps distinct rfl
  | false =>
    rw [State.declare_unnamed name]
    exact .keeps distinct rfl

theorem headings_step (script : Script) {state : State} (distinct : state.table.Distinct) (i : Nat) :
    script.Heads state i (script.step state i).state.table := by
  cases script.moves_step state i with
  | quiet notes | aims _ _ _ _ _ notes =>
    rw [notes.table]
    exact .keeps distinct rfl
  | declares before read keyword notes =>
    rw [notes.table]
    exact heads_declare distinct before read keyword
  | stores _ _ _ _ found type notes =>
    have same := Table.headings_assign distinct found type
    rw [notes.table]
    exact .keeps (by rw [Table.Distinct, same]; exact distinct) same
  | folds _ _ _ _ _ _ _ found applies notes =>
    have same := Table.headings_update distinct found (Operator.type_apply applies).1
    rw [notes.table]
    exact .keeps (by rw [Table.Distinct, same]; exact distinct) same

/-- In a run no name is declared twice. -/
theorem distinct_stateAt (script : Script) (n : Nat) : (script.stateAt n).table.Distinct := by
  refine script.stateAt_induct (motive := fun _ state => state.table.Distinct) List.nodup_nil ?_ n
  intro i distinct
  cases script.headings_step distinct i with
  | keeps distinct _ => exact distinct
  | adds distinct _ _ _ => exact distinct

/-- What has been declared stays, and in its order. -/
theorem headings_stateAt_mono (later : m ≤ n) :
    (script.stateAt m).table.headings <+: (script.stateAt n).table.headings := by
  induction later with
  | refl => exact List.prefix_refl _
  | @step n _ ih =>
    rw [stateAt_succ]
    cases script.headings_step (script.distinct_stateAt n) n with
    | keeps _ same =>
      rw [progressAt, same]
      exact ih
    | adds _ heading _ grows =>
      rw [progressAt, grows]
      exact ih.trans (List.prefix_append ..)

/-- Every variable was declared at a token that has been passed. -/
theorem declares_of_mem_headings {heading : Heading} :
    heading ∈ (script.stateAt n).table.headings → ∃ i < n, script.Declares i heading := by
  refine script.stateAt_induct (motive := fun n state => heading ∈ state.table.headings →
    ∃ i < n, script.Declares i heading) (by simp [Table.headings]) ?_ n
  intro n ih member
  cases script.headings_step (script.distinct_stateAt n) n with
  | keeps _ same =>
    rw [progressAt, same] at member
    obtain ⟨i, before, declares⟩ := ih member
    exact ⟨i, Nat.lt_succ_of_lt before, declares⟩
  | adds _ added declares grows =>
    rw [progressAt, grows, List.mem_append, List.mem_singleton] at member
    rcases member with member | rfl
    · obtain ⟨i, before, declares⟩ := ih member
      exact ⟨i, Nat.lt_succ_of_lt before, declares⟩
    · exact ⟨n, Nat.lt_succ_self n, declares⟩

/-- Every variable of a report was declared. -/
theorem exists_declares_of_mem_symbols {symbol : Symbol} (member : symbol ∈ script.report.symbols) :
    ∃ i, script.Declares i symbol.heading := by
  have heads : symbol.heading ∈ (script.stateAt script.size).table.headings := List.mem_map_of_mem member
  obtain ⟨i, _, declares⟩ := declares_of_mem_headings heads
  exact ⟨i, declares⟩

end Script

end ScriptCheck
