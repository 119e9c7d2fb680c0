import ScriptCheck.Proofs.Call.Reading
import ScriptCheck.Proofs.Table.Changes

/-! # Calls that find nothing wrong

Whatever goes wrong in a call is reported: an argument without a value, a function that refuses its arguments
or is not there, and an argument list that does not follow the grammar. So a call without a finding is closed
and has not failed (`Script.evaluate_closed`).
-/

namespace ScriptCheck

/-- The findings of some events are those that they report. -/
theorem Event.mem_findings_iff {events : List Event} {finding : Finding} :
    finding ∈ events.filterMap finding? ↔ .reported finding ∈ events := by
  rw [List.mem_filterMap]
  constructor
  · rintro ⟨event, member, same⟩
    cases event with
    | reported other =>
      obtain rfl := Option.some.inj same
      exact member
    | declared | stored | folded | called => cases same
  · exact fun member => ⟨_, member, rfl⟩

/-- Nothing is found wrong. -/
def Event.Clean (events : List Event) : Prop := events.filterMap Event.finding? = []

@[simp] theorem Event.clean_append {first second : List Event} :
    Clean (first ++ second) ↔ Clean first ∧ Clean second := by
  simp [Clean, List.filterMap_append]

@[simp] theorem Event.not_clean_reported (finding : Finding) (rest : List Event) :
    ¬ Clean (.reported finding :: rest) := by
  simp [Clean, Event.finding?]

/-- Nothing is found wrong in a part of what happens. -/
theorem Event.Clean.of_subset {part whole : List Event} (clean : Clean whole) (within : part ⊆ whole) :
    Clean part := by
  apply List.filterMap_eq_nil_iff.mpr
  intro event member
  exact List.filterMap_eq_nil_iff.mp clean event (within member)

/-- The value that a function of the host gives for some arguments, if it gives one. -/
def Registry.value? (natives : Registry) (name : String) (args : List Value) : Option Value :=
  match natives.call name args with
  | .ok reply => reply.value
  | .error _ => none

def Table.value? (table : Table) (name : String) : Option Value := (table.find? name).map (·.value)

/-- A variable that can be reached is read with its value. -/
theorem Table.value?_of_visible {table : Table} {name : String} {site : Scope} {value : Value}
    (visible : table.resolve name site = .visible value) : table.value? name = some value := by
  obtain ⟨symbol, found, _, rfl⟩ := Table.resolve_eq_visible_iff.mp visible
  rw [Table.value?, found, Option.map_some]

/-! ### One call without a finding -/

theorem Frame.take_clean {table : Table} {frame : Frame} {site : Site}
    (clean : Event.Clean (frame.take table site).2) :
    ∃ value, site.token.literal?.or (table.value? site.token.text) = some value ∧
      (frame.take table site).1 = frame.push value := by
  unfold take at clean ⊢
  split
  · rename_i value literal
    exact ⟨value, by rw [literal, Option.some_or], rfl⟩
  · rename_i noLiteral
    simp only [noLiteral] at clean
    split at clean
    · rename_i value visible
      exact ⟨value, by rw [noLiteral, Option.none_or, Table.value?_of_visible visible], rfl⟩
    · exact (Event.not_clean_reported _ _ clean).elim
    · exact (Event.not_clean_reported _ _ clean).elim

/-- A complete call that finds nothing wrong has run its function. -/
theorem Frame.run_clean {natives : Registry} {frame : Frame} {position : Nat}
    (complete : frame.complete = true) (clean : Event.Clean (frame.run natives position).2) :
    (frame.run natives position).1 = match natives.value? frame.name frame.args with
      | some value => .value value
      | none => .void := by
  unfold run at clean ⊢
  split
  · rename_i missing
    rw [if_pos missing] at clean
    exact (Event.not_clean_reported _ _ clean).elim
  · rename_i known
    rw [if_neg known] at clean
    simp only [complete, Bool.not_true, Bool.false_eq_true, if_false] at clean ⊢
    split at clean
    · exact (Event.not_clean_reported _ _ clean).elim
    · rename_i reply replied
      simp only [Registry.value?, replied, Invocation.outcome]
      split <;> simp_all

/-- A call that takes over the outcome of a nested one without a finding takes a value. -/
theorem Frame.receive_clean {natives : Registry} {inner frame : Frame} {callee : Site} {position : Nat}
    (complete : inner.complete = true) (ran : Event.Clean (inner.run natives position).2)
    (heard : Event.Clean (frame.receive callee (inner.run natives position).1).2) :
    ∃ value, natives.value? inner.name inner.args = some value ∧
      (frame.receive callee (inner.run natives position).1).1 = frame.push value := by
  rw [run_clean complete ran] at heard ⊢
  cases found : natives.value? inner.name inner.args with
  | some value => exact ⟨value, rfl, rfl⟩
  | none =>
    rw [found] at heard
    exact (Event.not_clean_reported _ _ heard).elim

/-! ### A whole call without a finding -/

namespace Script

/-- A reading without a finding closes its call, and the call does not fail. -/
theorem readCall_closed {script : Script} (table : Table) {ts : List Token} {position : Nat}
    {expected : Expected} (top : Frame) (below : List Frame)
    (reads : script.Reads position expected ts) :
    (∀ frame ∈ top :: below, frame.complete = true) →
      Event.Clean (readCall script.natives table ts position expected top below).events →
      (∃ e, (readCall script.natives table ts position expected top below).close = some e) ∧
        (readCall script.natives table ts position expected top below).outcome ≠ .failed := by
  refine script.reading_induct table (motive := fun _ _ top below result =>
    (∀ frame ∈ top :: below, frame.complete = true) → Event.Clean result.events →
      (∃ e, result.close = some e) ∧ result.outcome ≠ .failed) ?giveUp ?opening ?close ?closeInner
    ?comma ?callee ?value top below reads
  case giveUp =>
    intro _ _ _ _ _ _ _ clean
    exact (Event.not_clean_reported _ _ clean).elim
  case opening =>
    intro _ _ _ _ _ _ _ ih
    exact ih
  case close =>
    intro _ position _ top _ _ _ complete clean
    refine ⟨⟨position, rfl⟩, ?_⟩
    dsimp only
    rw [Frame.run_clean (complete top (by simp)) clean]
    split <;> simp
  case closeInner =>
    intro _ position _ top parent others _ _ _ _ ih complete clean
    simp only [CallResult.after_events, Event.clean_append] at clean
    obtain ⟨value, _, received⟩ := Frame.receive_clean (complete top (by simp)) clean.1.1 clean.1.2
    refine ih ?_ clean.2
    rw [received]
    simp only [List.forall_mem_cons] at complete ⊢
    exact ⟨complete.2.1, complete.2.2⟩
  case comma =>
    intro _ _ _ _ _ _ _ ih
    exact ih
  case callee =>
    intro _ _ _ _ _ _ _ _ _ _ ih complete clean
    exact ih (by simpa using complete) clean
  case value =>
    intro _ _ _ top _ _ _ _ _ _ _ ih complete clean
    simp only [CallResult.after_events, Event.clean_append] at clean
    obtain ⟨value, _, taken⟩ := Frame.take_clean clean.1
    refine ih ?_ clean.2
    rw [taken]
    simp only [List.forall_mem_cons] at complete ⊢
    exact complete

/-- A call without a finding is closed and does not fail. -/
theorem evaluate_closed {script : Script} {table : Table} {p : Nat} {t : Token}
    (callee : script.isCallee p = true) (clean : Event.Clean (script.evaluate table p t).events) :
    (∃ e, (script.evaluate table p t).close = some e) ∧
      (script.evaluate table p t).outcome ≠ .failed :=
  readCall_closed table ⟨⟨p, t⟩, [], true⟩ [] (reads_of_isCallee callee) (by simp) clean

end Script

end ScriptCheck
