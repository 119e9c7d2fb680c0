import ScriptCheck.Proofs.Call.Ran
import ScriptCheck.Proofs.Run.Wording

/-! # What the evaluation of a call records

The evaluation of a call changes no variable. It records calls that reach the registry and what is found wrong with
them, all of it in the statement of the call (`Script.passive_evaluate`). The arguments come from literals,
variables and functions, so they have every property that the values from there have; a message shows texts of the
script, and one that says that a function has no value is about a function that has given none.
-/

namespace ScriptCheck

/-! ### Where findings stand and what they show -/

/-- The text is that of a token of the script, or that between the quotes of a literal. -/
def Script.Shows (script : Script) (text : String) : Prop :=
  ∃ t ∈ script.tokens, text = t.text ∨ t.contents? = some text

/-- The function has given no value for some arguments. -/
def Registry.Voids (natives : Registry) (name : String) : Prop :=
  ∃ args reply, natives.call name args = .ok reply ∧ reply.value = none

/-- A problem shows texts of the script, and a function that it says has no value has given none. -/
structure Problem.Grounded (script : Script) (problem : Problem) : Prop where
  shown : ∀ text ∈ problem.texts, script.Shows text
  void : ∀ function, problem.voidFunction? = some function → script.natives.Voids function

namespace Script

/-- No statement ends from position `i` on before position `j`. -/
structure SameStatement (script : Script) (i j : Nat) : Prop where
  le : i ≤ j
  inside : ∀ k t, i ≤ k → k < j → script.tokens[k]? = some t → t.kind.endsStatement = false

/-- The site is that of a token in the statement of position `i`, from there on: the token there, or a name or
literal behind it. -/
structure LocatedFrom (script : Script) (i : Nat) (site : Site) : Prop where
  read : script.tokens[site.position]? = some site.token
  same : script.SameStatement i site.position
  value : site.position ≠ i → site.token.isValue = true

variable {script : Script} {i j : Nat} {site : Site} {t : Token}

/-- A token shows its text. -/
theorem shows_text (within : t ∈ script.tokens) : script.Shows t.text :=
  ⟨t, within, .inl rfl⟩

private theorem SameStatement.refl (script : Script) (i : Nat) : script.SameStatement i i :=
  ⟨Nat.le_refl i, fun _ _ behind before => absurd behind (Nat.not_le.mpr before)⟩

/-- A token that does not end the statement is passed. -/
theorem SameStatement.next (same : script.SameStatement i j) (read : script.tokens[j]? = some t)
    (goesOn : t.kind.endsStatement = false) : script.SameStatement i (j + 1) := by
  refine ⟨Nat.le_succ_of_le same.le, fun k u behind before found => ?_⟩
  rcases Nat.eq_or_lt_of_le (Nat.le_of_lt_succ before) with rfl | earlier
  · obtain rfl : t = u := by simpa [read] using found
    exact goesOn
  · exact same.inside k u behind earlier found

/-- No statement ends between a callee and what its parentheses hold. -/
theorem SameStatement.behind_callee (callee : script.isCallee i = true) : script.SameStatement i (i + 2) := by
  obtain ⟨t, opening, read, name, next, kind⟩ := isCallee_iff.mp callee
  have goesOn := Token.not_endsStatement_of_isValue (Token.isValue_of_isName name)
  exact ((SameStatement.refl script i).next read goesOn).next next (by rw [kind]; rfl)

theorem LocatedFrom.here (read : script.tokens[i]? = some t) : script.LocatedFrom i ⟨i, t⟩ :=
  ⟨read, .refl script i, fun other => absurd rfl other⟩

private theorem LocatedFrom.mem (located : script.LocatedFrom i site) : site.token ∈ script.tokens :=
  List.mem_of_getElem? located.read

end Script

/-! ### Where values come from -/

/-- Wherever the values of a check come from, they have a property. -/
structure Script.Supplies (script : Script) (P : Value → Prop) : Prop where
  literal : ∀ t ∈ script.tokens, ∀ value, t.literal? = some value → P value
  zero : ∀ type, P (.zero type)
  apply : ∀ (operator : Operator) (old value result : Value), P old → P value →
    operator.apply old value = some result → P result
  reply : ∀ name args reply value, (∀ arg ∈ args, P arg) → script.natives.call name args = .ok reply →
    reply.value = some value → P value

def Table.OnlyHolds (P : Value → Prop) (table : Table) : Prop := ∀ symbol ∈ table.symbols, P symbol.value

/-- The outcome of a call of the function: a value with the property, or none because the function gives none. -/
def Outcome.Grounded (natives : Registry) (P : Value → Prop) (name : String) : Outcome → Prop
  | .failed => True
  | .void => natives.Voids name
  | .value v => P v

variable {script : Script} {P : Value → Prop} {table : Table} {i : Nat}

namespace Table.OnlyHolds

theorem resolve (holds : table.OnlyHolds P) {name : String} {site : Scope} {value : Value}
    (visible : table.resolve name site = .visible value) : P value := by
  obtain ⟨symbol, found, _, rfl⟩ := Table.resolve_eq_visible_iff.mp visible
  exact holds symbol (List.mem_of_find?_eq_some found)

/-- A change of one variable to a value with the property. -/
theorem change (holds : table.OnlyHolds P) {name : String} {f : Symbol → Symbol}
    (gives : ∀ symbol, P (f symbol).value) : (table.change name f).OnlyHolds P := by
  intro symbol member
  obtain ⟨old, within, rfl⟩ := List.mem_map.mp member
  split
  · exact gives old
  · exact holds old within

theorem declare (holds : table.OnlyHolds P) {name : String} {type : ValueType} {scope : Scope} {larger : Table}
    (zero : P (.zero type)) (declared : table.declare? name type scope = some larger) : larger.OnlyHolds P := by
  unfold OnlyHolds
  rw [Table.symbols_declare declared, List.forall_mem_append]
  exact ⟨holds, by simpa [Symbol.declared] using zero⟩

end Table.OnlyHolds

private theorem Registry.function_of_call {natives : Registry} {name : String} {args : List Value} {error : CallError}
    (refused : natives.call name args = .error error) : error.function = name := by
  unfold call at refused
  split at refused
  · cases refused
    rfl
  · rename_i native found
    have named : native.name = name := by simpa using List.find?_some found
    unfold Native.call Native.check at refused
    split at refused
    · rename_i checked
      cases refused
      split at checked
      · cases checked
        exact named
      · split at checked
        · cases checked
          exact named
        · cases checked
    · cases refused

/-! ### Events that change nothing -/

namespace Event

/-- An event of position `i` that changes no variable: a call in the statement there reaches the registry, or
something is found wrong there that is no second declaration. -/
inductive Passive (script : Script) (P : Value → Prop) (i : Nat) : Event → Prop
  | called {call : Invocation} (located : script.LocatedFrom i call.callee) (args : ∀ arg ∈ call.args, P arg)
      (ran : call.reply.isSome = true → call.Ran script.natives) : Passive script P i (.called call)
  | found {site : Site} {problem : Problem} (located : script.LocatedFrom i site)
      (grounded : problem.Grounded script) (single : problem.isRedeclared = false) :
      Passive script P i (.reported ⟨site, problem⟩)

variable {site : Site} {problem : Problem}

/-- A problem that shows texts of the script is reported. -/
theorem passive_reported (located : script.LocatedFrom i site) (shown : ∀ text ∈ problem.texts, script.Shows text)
    (quiet : problem.voidFunction? = none) (single : problem.isRedeclared = false) :
    ∀ event ∈ [Event.reported ⟨site, problem⟩], event.Passive script P i := by
  refine List.forall_mem_singleton.mpr (.found located ⟨shown, fun function void => ?_⟩ single)
  rw [quiet] at void
  cases void

/-- A problem with a function that has no value is reported. -/
theorem passive_void (located : script.LocatedFrom i site) (shown : ∀ text ∈ problem.texts, script.Shows text)
    {function : String} (about : problem.voidFunction? = some function) (voids : script.natives.Voids function)
    (single : problem.isRedeclared = false) :
    ∀ event ∈ [Event.reported ⟨site, problem⟩], event.Passive script P i := by
  refine List.forall_mem_singleton.mpr (.found located ⟨shown, fun other void => ?_⟩ single)
  obtain rfl := Option.some.inj (about.symm.trans void)
  exact voids

end Event

/-! ### Reading a call -/

namespace Frame

/-- An open call stands in the statement, and what it has gathered has the property. -/
structure Grounded (script : Script) (P : Value → Prop) (i : Nat) (frame : Frame) : Prop where
  callee : script.LocatedFrom i frame.callee
  args : ∀ arg ∈ frame.args, P arg

variable {frame : Frame} {site : Site}

private theorem Grounded.push (grounded : frame.Grounded script P i) {value : Value} (holds : P value) :
    (frame.push value).Grounded script P i :=
  ⟨grounded.callee, List.forall_mem_append.mpr ⟨grounded.args, by simpa using holds⟩⟩

private theorem Grounded.fail (grounded : frame.Grounded script P i) : frame.fail.Grounded script P i :=
  ⟨grounded.callee, grounded.args⟩

private theorem Grounded.shows (grounded : frame.Grounded script P i) : script.Shows frame.name :=
  Script.shows_text grounded.callee.mem

private theorem passive_take (supplies : script.Supplies P) (holds : table.OnlyHolds P)
    (grounded : frame.Grounded script P i) (located : script.LocatedFrom i site) :
    (frame.take table site).1.Grounded script P i ∧
      ∀ event ∈ (frame.take table site).2, event.Passive script P i := by
  have name := script.shows_text located.mem
  unfold take
  split
  · rename_i value literal
    exact ⟨grounded.push (supplies.literal _ located.mem _ literal), List.forall_mem_nil _⟩
  split
  · rename_i value visible
    exact ⟨grounded.push (holds.resolve visible), List.forall_mem_nil _⟩
  · exact ⟨grounded.fail, Event.passive_reported located (by simpa [Problem.texts] using name) rfl rfl⟩
  · have shown := And.intro name grounded.shows
    exact ⟨grounded.fail, Event.passive_reported located (by simpa [Problem.texts] using shown) rfl rfl⟩

private theorem passive_receive (grounded : frame.Grounded script P i) (located : script.LocatedFrom i site)
    {outcome : Outcome} (gave : outcome.Grounded script.natives P site.token.text) :
    (frame.receive site outcome).1.Grounded script P i ∧
      ∀ event ∈ (frame.receive site outcome).2, event.Passive script P i := by
  cases outcome with
  | value value => exact ⟨grounded.push gave, List.forall_mem_nil _⟩
  | failed => exact ⟨grounded.fail, List.forall_mem_nil _⟩
  | void =>
    have shown := And.intro (script.shows_text located.mem) grounded.shows
    exact ⟨grounded.fail, Event.passive_void located (by simpa [Problem.texts] using shown) rfl gave rfl⟩

private theorem passive_run (supplies : script.Supplies P) (grounded : frame.Grounded script P i) (close : Nat) :
    (frame.run script.natives close).1.Grounded script.natives P frame.name ∧
      ∀ event ∈ (frame.run script.natives close).2, event.Passive script P i := by
  have shown := grounded.shows
  unfold run
  split
  · refine ⟨trivial, Event.passive_reported grounded.callee ?_ rfl rfl⟩
    simpa [Problem.texts, CallError.function] using shown
  split
  · exact ⟨trivial, List.forall_mem_nil _⟩
  split
  · rename_i error refused
    have function := Registry.function_of_call refused
    refine ⟨trivial, List.forall_mem_cons.mpr ⟨.found grounded.callee ⟨?_, nofun⟩ rfl, ?_⟩⟩
    · simpa [Problem.texts, function] using shown
    · exact List.forall_mem_singleton.mpr (.called grounded.callee grounded.args fun ran => absurd ran (by simp))
  · rename_i reply replied
    refine ⟨?_, List.forall_mem_singleton.mpr (.called grounded.callee grounded.args fun _ => ⟨reply, rfl, replied⟩)⟩
    dsimp only [Invocation.outcome]
    split
    · rename_i none
      exact ⟨frame.args, reply, replied, none⟩
    · rename_i value gave
      exact supplies.reply _ _ reply value grounded.args replied gave

end Frame

namespace Script

/-- A reading in a statement records nothing but calls and findings there, and its outcome is one of the outermost
call. -/
theorem passive_readCall (supplies : script.Supplies P) (holds : table.OnlyHolds P) {ts : List Token}
    {position : Nat} {expected : Expected} (top : Frame) (below : List Frame)
    (reads : script.Reads position expected ts) (name : String) :
    script.SameStatement i position → (∀ frame ∈ top :: below, frame.Grounded script P i) →
      ((top :: below).map Frame.name).getLast? = some name →
      (∀ event ∈ (readCall script.natives table ts position expected top below).events,
          event.Passive script P i) ∧
        (readCall script.natives table ts position expected top below).outcome.Grounded script.natives P name := by
  refine script.reading_induct table (motive := fun position _ top below result =>
    script.SameStatement i position → (∀ frame ∈ top :: below, frame.Grounded script P i) →
      ((top :: below).map Frame.name).getLast? = some name →
      (∀ event ∈ result.events, event.Passive script P i) ∧
        result.outcome.Grounded script.natives P name) ?giveUp ?opening ?close ?closeInner ?comma ?callee ?value
    top below reads
  case giveUp =>
    intro position _ top _ problem why _ grounded _
    have opened := grounded top (List.mem_cons_self ..)
    have name := opened.shows
    refine ⟨?_, trivial⟩
    cases why with
    | unclosed => exact Event.passive_reported opened.callee (by simpa [Problem.texts] using name) rfl rfl
    | separator found | argument found =>
      have shown := And.intro name (script.shows_text (List.mem_of_getElem? found))
      exact Event.passive_reported opened.callee (by simpa [Problem.texts] using shown) rfl rfl
  case opening | comma =>
    intro t _ _ _ _ read kind ih same
    exact ih (same.next read (by rw [kind]; rfl))
  case close =>
    intro _ position _ top _ _ _ _ grounded outermost
    obtain rfl : top.name = name := by simpa using outermost
    exact (Frame.passive_run supplies (grounded top (List.mem_cons_self ..)) position).symm
  case closeInner =>
    intro _ position _ top parent others _ read kind _ ih same grounded outermost
    obtain ⟨atTop, atParent, around⟩ := List.forall_mem_cons.mp grounded |>.imp_right List.forall_mem_cons.mp
    obtain ⟨gave, ran⟩ := Frame.passive_run supplies atTop position
    obtain ⟨received, heard⟩ := Frame.passive_receive atParent atTop.callee gave
    obtain ⟨later, outcome⟩ := ih (same.next read (by rw [kind]; rfl)) (List.forall_mem_cons.mpr ⟨received, around⟩)
      (by rw [← outermost]; simp [Frame.name])
    exact ⟨List.forall_mem_append.mpr ⟨List.forall_mem_append.mpr ⟨ran, heard⟩, later⟩, outcome⟩
  case callee =>
    intro t position _ _ _ _ read calls _ _ ih same grounded outermost
    have value := Token.isValue_of_isName (isName_of_isCallee calls read)
    have met : Frame.Grounded script P i ⟨⟨position, t⟩, [], true⟩ := ⟨⟨read, same, fun _ => value⟩, by simp⟩
    exact ih (same.next read (Token.not_endsStatement_of_isValue value)) (List.forall_mem_cons.mpr ⟨met, grounded⟩)
      (by simpa using outermost)
  case value =>
    intro t position _ top below _ read value _ _ _ ih same grounded outermost
    obtain ⟨atTop, around⟩ := List.forall_mem_cons.mp grounded
    have located : script.LocatedFrom i ⟨position, t⟩ := ⟨read, same, fun _ => value⟩
    obtain ⟨taken, told⟩ := Frame.passive_take supplies holds atTop located
    obtain ⟨later, outcome⟩ := ih (same.next read (Token.not_endsStatement_of_isValue value))
      (List.forall_mem_cons.mpr ⟨taken, around⟩) (by rw [← outermost]; simp [Frame.name])
    exact ⟨List.forall_mem_append.mpr ⟨told, later⟩, outcome⟩

/-- The evaluation of a call records nothing but calls and findings in its statement. -/
theorem passive_evaluate (supplies : script.Supplies P) (holds : table.OnlyHolds P) {t : Token}
    (callee : script.isCallee i = true) (read : script.tokens[i]? = some t) :
    (∀ event ∈ (script.evaluate table i t).events, event.Passive script P i) ∧
      (script.evaluate table i t).outcome.Grounded script.natives P t.text := by
  apply passive_readCall supplies holds ⟨⟨i, t⟩, [], true⟩ [] (reads_of_isCallee callee) t.text
    (.behind_callee callee)
  · exact List.forall_mem_singleton.mpr ⟨.here read, List.forall_mem_nil _⟩
  · rfl

/-- No property is asked of the values. -/
theorem supplies_true (script : Script) : script.Supplies fun _ => True :=
  ⟨fun _ _ _ _ => trivial, fun _ => trivial, fun _ _ _ _ _ _ _ => trivial, fun _ _ _ _ _ _ _ => trivial⟩

end Script

theorem Table.onlyHolds_true (table : Table) : table.OnlyHolds fun _ => True := fun _ _ => trivial

end ScriptCheck
