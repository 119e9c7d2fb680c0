import ScriptCheck.Check.Call

/-! # Reading a call

`Script.reading_induct` is the induction that every fact about the reader of calls goes through: one case
for each thing that a token can be in an argument list, and one for giving up. Where a call is given
up, the check goes on no later than at the end of the statement (`Script.resume_evaluate_le`).
-/

namespace ScriptCheck

namespace CallResult

@[simp] theorem after_events (events : List Event) (result : CallResult) :
    (result.after events).events = events ++ result.events := rfl

@[simp] theorem after_resume (events : List Event) (result : CallResult) :
    (result.after events).resume = result.resume := rfl

end CallResult

/-! ### Kinds of token in an argument list -/

theorem Token.isName_iff {t : Token} :
    t.isName = true ↔ t.kind = .identifier ∧ t.isNumber = false := by
  simp [Token.isName]

theorem Token.endsOperand_iff {t : Token} :
    t.endsOperand = true ↔ t.isValue = true ∨ t.kind = .closeParen := by
  simp [Token.endsOperand]

theorem Token.not_endsStatement_of_isValue {t : Token} (value : t.isValue = true) :
    t.kind.endsStatement = false := by
  cases kind : t.kind <;> simp [Token.isValue, Kind.isValue, kind] at value <;> rfl

theorem Token.isValue_of_isName {t : Token} (name : t.isName = true) : t.isValue = true := by
  simp [Token.isValue, Kind.isValue, (Token.isName_iff.mp name).1]

/-- The end of a statement is no name. -/
theorem Token.not_isName_of_endsStatement {t : Token} (ends : t.kind.endsStatement = true) :
    t.isName = false := by
  apply Bool.eq_false_iff.mpr
  intro name
  rw [Token.not_endsStatement_of_isValue (Token.isValue_of_isName name)] at ends
  cases ends

theorem Token.isValue_of_literal? {t : Token} {value : Value} (literal : t.literal? = some value) :
    t.isValue = true := by
  cases kind : t.kind <;>
    simp [Token.literal?, Token.number?, Token.contents?, kind] at literal <;>
    simp [Token.isValue, Kind.isValue, kind]

namespace Script

theorem opensCall_iff {t : Token} {next : Option Token} : opensCall t next = true ↔
    t.isName = true ∧ ∃ u, next = some u ∧ u.kind = .openParen := by
  simp [opensCall, Option.any_eq_true]

theorem isCallee_iff {script : Script} {p : Nat} : script.isCallee p = true ↔
    ∃ t u, script.tokens[p]? = some t ∧ t.isName = true ∧
      script.tokens[p + 1]? = some u ∧ u.kind = .openParen := by
  unfold isCallee
  constructor
  · intro callee
    obtain ⟨t, found, calls⟩ := (Option.any_eq_true _ _).mp callee
    obtain ⟨name, u, next, kind⟩ := opensCall_iff.mp calls
    exact ⟨t, u, found, name, next, kind⟩
  · rintro ⟨t, u, found, name, next, kind⟩
    exact (Option.any_eq_true _ _).mpr ⟨t, found, opensCall_iff.mpr ⟨name, u, next, kind⟩⟩

/-- A callee is a name. -/
theorem isName_of_isCallee {script : Script} {p : Nat} {t : Token} (callee : script.isCallee p = true)
    (read : script.tokens[p]? = some t) : t.isName = true := by
  obtain ⟨f, _, found, name, _⟩ := isCallee_iff.mp callee
  obtain rfl : t = f := by simpa [read] using found
  exact name

/-- A token with something else than an opening parenthesis behind it is no callee. -/
theorem isCallee_eq_false {script : Script} {p : Nat}
    (apart : ∀ t, script.tokens[p + 1]? = some t → t.kind ≠ .openParen) :
    script.isCallee p = false := by
  apply Bool.eq_false_iff.mpr
  intro callee
  obtain ⟨_, u, _, _, next, opens⟩ := isCallee_iff.mp callee
  exact apart u next opens

/-! ### Where the reader stands -/

end Script

namespace Expected

def Begins (expected : Expected) : Prop := expected = .first ∨ expected = .argument

def Ends (expected : Expected) : Prop := expected = .first ∨ expected = .separator

variable {expected : Expected}

theorem Begins.ne_opening (begins : expected.Begins) : expected ≠ .opening := by
  rcases begins with rfl | rfl <;> simp

theorem Ends.ne_opening (ends : expected.Ends) : expected ≠ .opening := by
  rcases ends with rfl | rfl <;> simp

/-- Behind the opening parenthesis an argument begins, unless a comma or the end of the list is due. -/
theorem begins_of_ne (notOpening : expected ≠ .opening) (notSeparator : expected ≠ .separator) :
    expected.Begins := by
  cases expected with
  | opening => exact absurd rfl notOpening
  | first => exact .inl rfl
  | argument => exact .inr rfl
  | separator => exact absurd rfl notSeparator

/-- Behind the opening parenthesis the list may end, unless a comma asks for one more argument. -/
theorem ends_of_ne (notOpening : expected ≠ .opening) (notArgument : expected ≠ .argument) :
    expected.Ends := by
  cases expected with
  | opening => exact absurd rfl notOpening
  | first => exact .inl rfl
  | argument => exact absurd rfl notArgument
  | separator => exact .inr rfl

end Expected

namespace Script

/-- An argument may begin at `position`: an opening parenthesis or a comma stands before it. -/
def BeginsArgument (script : Script) (position : Nat) : Prop :=
  ∃ t, script.before? position 1 = some t ∧ (t.kind = .openParen ∨ t.kind = .comma)

/-- The reader stands at `position` with `rest` before it, and the token behind it is one after which
`expected` is right. -/
structure Reads (script : Script) (position : Nat) (expected : Expected) (rest : List Token) :
    Prop where
  rest_eq : script.tokens.drop position = rest
  opening : expected = .opening → ∃ t, script.tokens[position]? = some t ∧ t.kind = .openParen
  argument : expected.Begins → script.BeginsArgument position

namespace Reads

variable {script : Script} {position : Nat} {expected : Expected} {t : Token} {rest : List Token}

theorem found (reads : script.Reads position expected (t :: rest)) :
    script.tokens[position]? = some t := by
  rw [← List.head?_drop, reads.rest_eq, List.head?_cons]

theorem tail (reads : script.Reads position expected (t :: rest)) :
    script.tokens.drop (position + 1) = rest := by
  rw [← List.tail_drop, reads.rest_eq, List.tail_cons]

private theorem next (reads : script.Reads position expected (t :: rest)) :
    script.tokens[position + 1]? = rest.head? := by
  rw [← List.head?_drop, reads.tail]

theorem opensCall (reads : script.Reads position expected (t :: rest)) :
    Script.opensCall t rest.head? = script.isCallee position := by
  rw [isCallee, reads.found, reads.next, Option.any_some]

theorem separator (reads : script.Reads position expected (t :: rest)) :
    script.Reads (position + 1) .separator rest :=
  ⟨reads.tail, by simp, by simp [Expected.Begins]⟩

theorem begin (reads : script.Reads position expected (t :: rest))
    (kind : t.kind = .openParen ∨ t.kind = .comma) {following : Expected}
    (begins : following ≠ .opening) : script.Reads (position + 1) following rest := by
  refine ⟨reads.tail, fun opens => absurd opens begins, fun _ => ⟨t, ?_, kind⟩⟩
  simpa [before?] using reads.found

theorem nested (reads : script.Reads position expected (t :: rest))
    (calls : script.isCallee position = true) : script.Reads (position + 1) .opening rest := by
  obtain ⟨_, u, _, _, next, kind⟩ := isCallee_iff.mp calls
  exact ⟨reads.tail, fun _ => ⟨u, next, kind⟩, by simp [Expected.Begins]⟩

end Reads

/-- The argument list of a call is read from behind its opening parenthesis on. -/
theorem reads_of_isCallee {script : Script} {p : Nat} (callee : script.isCallee p = true) :
    script.Reads (p + 2) .first (script.tokens.drop (p + 2)) := by
  obtain ⟨_, u, _, _, next, kind⟩ := isCallee_iff.mp callee
  refine ⟨rfl, by simp, fun _ => ⟨u, ?_, .inl kind⟩⟩
  simpa [before?] using next

/-! ### The induction -/

/-- Why a reading is given up at a position: its statement ends inside the call, or the token there does not go on
with the argument list. -/
inductive GivesUp (script : Script) (position : Nat) (top : Frame) : Problem → Prop
  | unclosed : GivesUp script position top (.unclosedCall top.name)
  | separator {t : Token} (found : script.tokens[position]? = some t) :
      GivesUp script position top (.expectedSeparator top.name t.text)
  | argument {t : Token} (found : script.tokens[position]? = some t) :
      GivesUp script position top (.expectedArgument top.name t.text)

/-- What holds when the reader gives up or closes the outermost call, and is kept by each token that
goes into an argument list, holds of the result of every reading. -/
theorem reading_induct (script : Script) (table : Table)
    {motive : Nat → Expected → Frame → List Frame → CallResult → Prop}
    (giveUp : ∀ position expected top below problem, script.GivesUp position top problem →
      motive position expected top below (.abandoned top problem position (script.tokens.drop position)))
    (opening : ∀ t position top below result, script.tokens[position]? = some t →
      t.kind = .openParen → motive (position + 1) .first top below result →
        motive position .opening top below result)
    (close : ∀ t position expected top, script.tokens[position]? = some t → t.kind = .closeParen →
      expected.Ends → motive position expected top []
        { outcome := (top.run script.natives position).1, close := some position,
          events := (top.run script.natives position).2 })
    (closeInner : ∀ t position expected top parent others result,
      script.tokens[position]? = some t → t.kind = .closeParen → expected.Ends →
      motive (position + 1) .separator
        (parent.receive top.callee (top.run script.natives position).1).1 others result →
        motive position expected top (parent :: others)
          (result.after ((top.run script.natives position).2 ++
            (parent.receive top.callee (top.run script.natives position).1).2)))
    (comma : ∀ t position top below result, script.tokens[position]? = some t → t.kind = .comma →
      motive (position + 1) .argument top below result →
        motive position .separator top below result)
    (callee : ∀ t position expected top below result, script.tokens[position]? = some t →
      script.isCallee position = true → script.BeginsArgument position → expected.Begins →
      motive (position + 1) .opening ⟨⟨position, t⟩, [], true⟩ (top :: below) result →
        motive position expected top below (result.meeting position))
    (value : ∀ t position expected top below result, script.tokens[position]? = some t →
      t.isValue = true → script.isCallee position = false → script.BeginsArgument position →
      expected.Begins → motive (position + 1) .separator (top.take table ⟨position, t⟩).1 below result →
        motive position expected top below
          (result.after (top.take table ⟨position, t⟩).2))
    {ts : List Token} {position : Nat} {expected : Expected} (top : Frame) (below : List Frame)
    (reads : script.Reads position expected ts) : motive position expected top below
      (readCall script.natives table ts position expected top below) := by
  fun_induction readCall script.natives table ts position expected top below with
  | case1 position expected top below =>
    rw [← reads.rest_eq]
    exact giveUp _ _ _ _ _ .unclosed
  | case2 t rest position expected top below =>
    rw [← reads.rest_eq]
    exact giveUp _ _ _ _ _ .unclosed
  | case3 t rest position top below _ ih =>
    obtain ⟨u, found, kind⟩ := reads.opening rfl
    obtain rfl : t = u := by simpa [reads.found] using found
    exact opening t position top below _ found kind (ih (reads.begin (.inl kind) (by simp)))
  | case4 t rest position expected top _ notOpening closing =>
    exact close t position expected top reads.found closing.1
      (Expected.ends_of_ne notOpening closing.2)
  | case5 t rest position expected top _ notOpening closing ran parent others heard ih =>
    exact closeInner t position expected top parent others _ reads.found closing.1
      (Expected.ends_of_ne notOpening closing.2) (ih reads.separator)
  | case6 t rest position top below _ kind _ _ ih =>
    exact comma t position top below _ reads.found kind (ih (reads.begin (.inr kind) (by simp)))
  | case7 t rest position top below =>
    rw [← reads.rest_eq]
    exact giveUp _ _ _ _ _ (.separator reads.found)
  | case8 t rest position expected top below _ notOpening _ notSeparator calls ih =>
    rw [reads.opensCall] at calls
    have begins := Expected.begins_of_ne notOpening notSeparator
    exact callee t position expected top below _ reads.found calls (reads.argument begins) begins
      (ih (reads.nested calls))
  | case9 t rest position expected top below _ notOpening _ notSeparator single isValue _ ih =>
    rw [reads.opensCall] at single
    have begins := Expected.begins_of_ne notOpening notSeparator
    exact value t position expected top below _ reads.found isValue (by simpa using single)
      (reads.argument begins) begins (ih reads.separator)
  | case10 t rest position expected top below =>
    rw [← reads.rest_eq]
    exact giveUp _ _ _ _ _ (.argument reads.found)

private theorem isCallee_of_mem_readCall {script : Script} (table : Table) {ts : List Token} {position : Nat}
    {expected : Expected} (top : Frame) (below : List Frame)
    (reads : script.Reads position expected ts) :
    ∀ c ∈ (readCall script.natives table ts position expected top below).callees,
      script.isCallee c = true := by
  refine script.reading_induct table (motive := fun _ _ _ _ result =>
    ∀ c ∈ result.callees, script.isCallee c = true) ?giveUp ?opening ?close ?closeInner ?comma ?callee
    ?value top below reads
  case giveUp =>
    intro _ _ _ _ _ _ c member
    cases member
  case close =>
    intro _ _ _ _ _ _ _ c member
    cases member
  case opening | comma =>
    intro _ _ _ _ _ _ _ ih
    exact ih
  case closeInner =>
    intro _ _ _ _ _ _ _ _ _ _ ih
    exact ih
  case callee =>
    intro _ _ _ _ _ _ _ calls _ _ ih
    exact List.forall_mem_cons.mpr ⟨calls, ih⟩
  case value =>
    intro _ _ _ _ _ _ _ _ _ _ _ ih
    exact ih

theorem isCallee_of_mem_evaluate {script : Script} {table : Table} {p : Nat} {t : Token}
    (callee : script.isCallee p = true) :
    ∀ c ∈ (script.evaluate table p t).callees, script.isCallee c = true :=
  List.forall_mem_cons.mpr
    ⟨callee, isCallee_of_mem_readCall table ⟨⟨p, t⟩, [], true⟩ [] (reads_of_isCallee callee)⟩

/-! ### Where the check goes on -/

private theorem statementEnd_le {ts : List Token} {k : Nat} {t : Token} (found : ts[k]? = some t)
    (ends : t.kind.endsStatement = true) (i : Nat) : statementEnd i ts ≤ i + k := by
  have short : (ts.takeWhile fun t => !t.kind.endsStatement).length ≤ k := by
    induction ts generalizing k with
    | nil => simp
    | cons u rest ih =>
      cases k with
      | zero =>
        obtain rfl : u = t := by simpa using found
        simp [ends]
      | succ k =>
        have shorter := ih (by simpa using found)
        by_cases stop : u.kind.endsStatement <;> simp [stop]
        omega
  unfold statementEnd
  omega

/-- What is read before the end of a statement stands before it. -/
private theorem lt_of_not_ends {script : Script} {i e : Nat} {t u : Token} (before : i ≤ e)
    (read : script.tokens[i]? = some t) (inside : t.kind.endsStatement = false)
    (found : script.tokens[e]? = some u) (ends : u.kind.endsStatement = true) : i + 1 ≤ e := by
  rcases Nat.eq_or_lt_of_le before with rfl | before
  · obtain rfl : t = u := by simpa [read] using found
    simp [inside] at ends
  · exact before

/-- A reading that is given up skips no token that ends a statement. -/
theorem resume_readCall_le {script : Script} (table : Table) {ts : List Token} {position : Nat}
    {expected : Expected} (top : Frame) (below : List Frame)
    (reads : script.Reads position expected ts) {e : Nat} {u : Token}
    (found : script.tokens[e]? = some u) (ends : u.kind.endsStatement = true) :
    position ≤ e →
      (readCall script.natives table ts position expected top below).resume ≤ e := by
  refine script.reading_induct table (motive := fun position _ _ _ result =>
    position ≤ e → result.resume ≤ e) ?giveUp ?opening ?close ?closeInner ?comma ?callee ?value
    top below reads
  case giveUp =>
    intro position _ _ _ _ _ before
    have ahead : (script.tokens.drop position)[e - position]? = some u := by
      rw [List.getElem?_drop, ← found]
      congr 1
      omega
    have bound := statementEnd_le ahead ends position
    change statementEnd position (script.tokens.drop position) ≤ e
    omega
  case opening =>
    intro t position _ _ _ read kind ih before
    exact ih (lt_of_not_ends before read (by rw [kind]; rfl) found ends)
  case close =>
    intro _ _ _ _ _ _ _ _
    exact Nat.zero_le _
  case closeInner =>
    intro t position _ _ _ _ _ read kind _ ih before
    exact ih (lt_of_not_ends before read (by rw [kind]; rfl) found ends)
  case comma =>
    intro t position _ _ _ read kind ih before
    exact ih (lt_of_not_ends before read (by rw [kind]; rfl) found ends)
  case callee =>
    intro t position _ _ _ _ read calls _ _ ih before
    have name := isName_of_isCallee calls read
    exact ih (lt_of_not_ends before read
      (Token.not_endsStatement_of_isValue (Token.isValue_of_isName name)) found ends)
  case value =>
    intro t position _ _ _ _ read isValue _ _ _ ih before
    exact ih (lt_of_not_ends before read (Token.not_endsStatement_of_isValue isValue) found ends)

/-- A call that is given up skips no token that ends a statement. -/
theorem resume_evaluate_le {script : Script} {table : Table} {p e : Nat} {t u : Token}
    (callee : script.isCallee p = true) (later : p ≤ e) (found : script.tokens[e]? = some u)
    (ends : u.kind.endsStatement = true) : (script.evaluate table p t).resume ≤ e := by
  obtain ⟨f, o, atCallee, name, atOpening, kind⟩ := isCallee_iff.mp callee
  have behindCallee := lt_of_not_ends later atCallee
    (Token.not_endsStatement_of_isValue (Token.isValue_of_isName name)) found ends
  have behindOpening := lt_of_not_ends behindCallee atOpening (by rw [kind]; rfl) found ends
  exact resume_readCall_le table _ _ (reads_of_isCallee callee) found ends behindOpening

end Script

end ScriptCheck
