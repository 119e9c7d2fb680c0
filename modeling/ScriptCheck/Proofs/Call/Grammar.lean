import ScriptCheck.Proofs.Call.Term
import ScriptCheck.Tokenize

/-! # The grammar of calls

Which tokens are a call is said here without the reader: a callee, and between its parentheses nothing or some
arguments with commas between them, each of them a call again or a single value (`Grammar.Derives`). A call is
read up to its closing parenthesis exactly where the tokens are one, whatever functions exist and whether or not
the call succeeds (`Script.close_evaluate_iff`).
-/

namespace ScriptCheck

namespace Grammar

/-! ### The grammar -/

def KindAt (ts : List Token) (i : Nat) (kind : Kind) : Prop := ∃ t, ts[i]? = some t ∧ t.kind = kind

/-- A name with an opening parenthesis behind it stands at position `i`. -/
def CalleeAt (ts : List Token) (i : Nat) : Prop :=
  (∃ t, ts[i]? = some t ∧ t.isName = true) ∧ KindAt ts (i + 1) .openParen

/-- What the grammar derives. -/
inductive Phrase where
  | call
  | argument
  | arguments
deriving DecidableEq, Repr

/-- The tokens from position `p` up to position `e`, which is included, derive from a phrase. -/
inductive Derives (ts : List Token) : Phrase → Nat → Nat → Prop
  /-- A callee with an empty list behind it. -/
  | bare {p : Nat} (callee : CalleeAt ts p) (close : KindAt ts (p + 2) .closeParen) :
      Derives ts .call p (p + 2)
  /-- A callee with some arguments in parentheses behind it. -/
  | list {p e : Nat} (callee : CalleeAt ts p) (args : Derives ts .arguments (p + 2) e)
      (close : KindAt ts (e + 1) .closeParen) : Derives ts .call p (e + 1)
  /-- An argument can be a call. -/
  | nested {p e : Nat} (call : Derives ts .call p e) : Derives ts .argument p e
  /-- An argument can be a single identifier or string literal that is no callee. -/
  | single {p : Nat} (value : KindAt ts p .identifier ∨ KindAt ts p .stringLiteral)
      (single : ¬ CalleeAt ts p) : Derives ts .argument p p
  | last {p e : Nat} (arg : Derives ts .argument p e) : Derives ts .arguments p e
  | more {p q e : Nat} (arg : Derives ts .argument p q) (comma : KindAt ts (q + 1) .comma)
      (rest : Derives ts .arguments (q + 2) e) : Derives ts .arguments p e

/-! ### What the open calls ask for -/

section

variable {ts : List Token} {expected : Expected} {below : List Frame} {p q e : Nat}

/-- What a call with this expectation at position `p` asks for before its closing parenthesis at `e`. -/
def Demands (ts : List Token) : Expected → Nat → Nat → Prop
  | .opening, p, e => KindAt ts p .openParen ∧ (e = p + 1 ∨ ∃ q, Derives ts .arguments (p + 1) q ∧ e = q + 1)
  | .first, p, e => e = p ∨ ∃ q, Derives ts .arguments p q ∧ e = q + 1
  | .argument, p, e => ∃ q, Derives ts .arguments p q ∧ e = q + 1
  | .separator, p, e => e = p ∨ KindAt ts p .comma ∧ ∃ q, Derives ts .arguments (p + 1) q ∧ e = q + 1

/-- The innermost open call is closed, then the calls around it one after the other, the outermost at `e`. -/
def Closes (ts : List Token) : List Frame → Expected → Nat → Nat → Prop
  | [], expected, p, e => Demands ts expected p e ∧ KindAt ts e .closeParen
  | _ :: others, expected, p, e => ∃ c, (Demands ts expected p c ∧ KindAt ts c .closeParen) ∧
      Closes ts others .separator (c + 1) e

/-- What the innermost call asks for can be met in another way. -/
theorem Closes.imp {other : Expected} (closes : Closes ts below other p e)
    (demands : ∀ c, Demands ts other p c → Demands ts expected q c) : Closes ts below expected q e := by
  cases below with
  | nil => exact ⟨demands e closes.1, closes.2⟩
  | cons frame others =>
    obtain ⟨c, ⟨inner, close⟩, outer⟩ := closes
    exact ⟨c, ⟨demands c inner, close⟩, outer⟩

/-- An argument and what may follow it are the arguments that a call asks for. -/
theorem Demands.of_argument (arg : Derives ts .argument p q) (begins : expected.Begins) :
    Demands ts .separator (q + 1) e → Demands ts expected p e := by
  intro demands
  have args : ∃ q, Derives ts .arguments p q ∧ e = q + 1 := by
    rcases demands with rfl | ⟨comma, last, rest, rfl⟩
    · exact ⟨q, .last arg, rfl⟩
    · exact ⟨last, .more arg comma rest, rfl⟩
  rcases begins with rfl | rfl
  · exact .inr args
  · exact args

/-- A call whose list may end asks for nothing more. -/
private theorem Demands.of_ends (ends : expected.Ends) : Demands ts expected p p := by
  rcases ends with rfl | rfl
  · exact .inl rfl
  · exact .inl rfl

/-- A callee is a call if what it asks for follows. -/
theorem Derives.of_demands (callee : CalleeAt ts p) (demands : Demands ts .first (p + 2) e)
    (close : KindAt ts e .closeParen) : Derives ts .call p e := by
  rcases demands with rfl | ⟨last, args, rfl⟩
  · exact .bare callee close
  · exact .list callee args close

end

end Grammar

namespace Script

open Grammar

variable {script : Script} {p e : Nat} {t : Token}

theorem calleeAt_iff : CalleeAt script.tokens p ↔ script.isCallee p = true := by
  rw [isCallee_iff]
  constructor
  · rintro ⟨⟨t, read, name⟩, u, next, kind⟩
    exact ⟨t, u, read, name, next, kind⟩
  · rintro ⟨t, u, read, name, next, kind⟩
    exact ⟨⟨t, read, name⟩, u, next, kind⟩

/-! ### What is read derives from the grammar -/

/-- A reading that closes its call has met what the open calls asked for. -/
theorem closes_readCall (table : Table) {ts : List Token} {position : Nat} {expected : Expected}
    (top : Frame) (below : List Frame) (reads : script.Reads position expected ts) :
    ∀ e, (readCall script.natives table ts position expected top below).close = some e →
      Closes script.tokens below expected position e := by
  refine script.reading_induct table (motive := fun position expected _ below result =>
    ∀ e, result.close = some e → Closes script.tokens below expected position e) ?giveUp ?opening ?close
    ?closeInner ?comma ?callee ?value top below reads
  case giveUp =>
    intro _ _ _ _ _ _ _ closed
    cases closed
  case opening =>
    intro t _ _ _ _ read kind ih e closed
    apply (ih e closed).imp
    intro c demands
    exact ⟨⟨t, read, kind⟩, demands⟩
  case close =>
    intro t position _ _ read kind ends e closed
    obtain rfl : position = e := Option.some.inj closed
    exact ⟨.of_ends ends, t, read, kind⟩
  case closeInner =>
    intro t position _ _ _ _ _ read kind ends ih e closed
    exact ⟨position, ⟨.of_ends ends, t, read, kind⟩, ih e closed⟩
  case comma =>
    intro t _ _ _ _ read kind ih e closed
    apply (ih e closed).imp
    intro c demands
    exact .inr ⟨⟨t, read, kind⟩, demands⟩
  case callee =>
    intro _ position _ _ _ _ _ calls _ begins ih e closed
    obtain ⟨c, ⟨⟨_, inner⟩, close⟩, outer⟩ := ih e closed
    have call : Derives script.tokens .call position c :=
      .of_demands (calleeAt_iff.mpr calls) inner close
    apply outer.imp
    intro last
    exact .of_argument (.nested call) begins
  case value =>
    intro t position _ _ _ _ read value single _ begins ih e closed
    have shape : KindAt script.tokens position .identifier ∨
        KindAt script.tokens position .stringLiteral := by
      have kind : t.kind = .identifier ∨ t.kind = .stringLiteral := by
        simpa [Token.isValue, Kind.isValue] using value
      exact kind.imp (fun kind => ⟨t, read, kind⟩) fun kind => ⟨t, read, kind⟩
    apply (ih e closed).imp
    intro last
    exact .of_argument (.single shape (by simp [calleeAt_iff, single])) begins

/-! ### What derives from the grammar is read -/

theorem drop_of_getElem? (read : script.tokens[p]? = some t) :
    script.tokens.drop p = t :: script.tokens.drop (p + 1) := by
  obtain ⟨inside, rfl⟩ := List.getElem?_eq_some_iff.mp read
  exact List.drop_eq_getElem_cons inside

/-- The opening parenthesis behind a callee is passed, and the list of the new call begins. -/
theorem close_readCall_callee (table : Table) {expected : Expected} (top : Frame) (below : List Frame)
    (callee : CalleeAt script.tokens p) (begins : expected.Begins) :
    ∃ frame, (readCall script.natives table (script.tokens.drop p) p expected top below).close =
      (readCall script.natives table (script.tokens.drop (p + 2)) (p + 2) .first frame
        (top :: below)).close := by
  obtain ⟨⟨t, read, name⟩, u, next, kind⟩ := callee
  have calls : opensCall t (script.tokens.drop (p + 1)).head? = true := by
    rw [List.head?_drop]
    exact opensCall_iff.mpr ⟨name, u, next, kind⟩
  refine ⟨⟨⟨p, t⟩, [], true⟩, ?_⟩
  rw [drop_of_getElem? read, readCall_callee calls begins, drop_of_getElem? next, readCall_opening kind]
  rfl

/-- A nested call is closed, and the list of the call around it goes on. -/
theorem close_readCall_inner (table : Table) {expected : Expected} (top parent : Frame)
    (others : List Frame) (close : KindAt script.tokens p .closeParen) (ends : expected.Ends) :
    ∃ frame, (readCall script.natives table (script.tokens.drop p) p expected top (parent :: others)).close =
      (readCall script.natives table (script.tokens.drop (p + 1)) (p + 1) .separator frame
        others).close := by
  obtain ⟨t, read, kind⟩ := close
  refine ⟨(parent.receive top.callee (top.run script.natives p).1).1, ?_⟩
  rw [drop_of_getElem? read, readCall_closeInner kind ends]
  rfl

/-- What is an argument, or some arguments, is passed as a whole. -/
theorem close_readCall_of_derives (table : Table) {phrase : Phrase}
    (derives : Derives script.tokens phrase p e) {expected : Expected} (top : Frame) (below : List Frame)
    (begins : expected.Begins) :
    ∃ frame, (readCall script.natives table (script.tokens.drop p) p expected top below).close =
      (readCall script.natives table (script.tokens.drop (e + 1)) (e + 1) .separator frame below).close := by
  induction derives generalizing expected top below with
  | bare callee close =>
    obtain ⟨inner, entered⟩ := close_readCall_callee table top below callee begins
    obtain ⟨frame, left⟩ := close_readCall_inner table inner top below close (.inl rfl)
    exact ⟨frame, entered.trans left⟩
  | list callee _ close ih =>
    obtain ⟨inner, entered⟩ := close_readCall_callee table top below callee begins
    obtain ⟨full, passed⟩ := ih inner (top :: below) (.inl rfl)
    obtain ⟨frame, left⟩ := close_readCall_inner table full top below close (.inr rfl)
    exact ⟨frame, entered.trans (passed.trans left)⟩
  | nested _ ih => exact ih top below begins
  | @single p value single =>
    obtain ⟨t, read, isValue⟩ : ∃ t, script.tokens[p]? = some t ∧ t.isValue = true := by
      rcases value with ⟨t, read, kind⟩ | ⟨t, read, kind⟩
      · exact ⟨t, read, by simp [Token.isValue, Kind.isValue, kind]⟩
      · exact ⟨t, read, by simp [Token.isValue, Kind.isValue, kind]⟩
    have alone : opensCall t (script.tokens.drop (p + 1)).head? = false := by
      apply Bool.eq_false_iff.mpr
      rw [List.head?_drop]
      intro calls
      obtain ⟨name, u, next, kind⟩ := opensCall_iff.mp calls
      exact single ⟨⟨t, read, name⟩, u, next, kind⟩
    refine ⟨(top.take table ⟨p, t⟩).1, ?_⟩
    rw [drop_of_getElem? read, readCall_value isValue begins alone]
    rfl
  | last _ ih => exact ih top below begins
  | more _ comma _ first rest =>
    obtain ⟨t, read, kind⟩ := comma
    obtain ⟨frame, passed⟩ := first top below begins
    obtain ⟨full, behind⟩ := rest frame below (.inr rfl)
    refine ⟨full, passed.trans ?_⟩
    rw [drop_of_getElem? read, readCall_comma kind]
    exact behind

/-- The outermost call is closed. -/
theorem close_readCall_outer (table : Table) {expected : Expected} (top : Frame)
    (close : KindAt script.tokens p .closeParen) (ends : expected.Ends) :
    (readCall script.natives table (script.tokens.drop p) p expected top []).close = some p := by
  obtain ⟨t, read, kind⟩ := close
  rw [drop_of_getElem? read, readCall_close kind ends]

/-- A call is read up to its closing parenthesis exactly where it derives from the grammar. -/
theorem close_evaluate (table : Table) (t : Token) (callee : script.isCallee p = true) :
    (script.evaluate table p t).close = some e ↔ Derives script.tokens .call p e := by
  constructor
  · intro closed
    obtain ⟨demands, close⟩ :=
      closes_readCall table ⟨⟨p, t⟩, [], true⟩ [] (reads_of_isCallee callee) e closed
    exact .of_demands (calleeAt_iff.mpr callee) demands close
  · intro derives
    cases derives with
    | bare _ close => exact close_readCall_outer table _ close (.inl rfl)
    | list _ args close =>
      obtain ⟨frame, passed⟩ := close_readCall_of_derives table args ⟨⟨p, t⟩, [], true⟩ [] (.inl rfl)
      exact passed.trans (close_readCall_outer table frame close (.inr rfl))

/-! ### Parentheses and ends of statements -/

/-- The tokens from `p` up to before `q` open and close parentheses in pairs, and end no statement. -/
structure Balanced (script : Script) (p q : Nat) : Prop where
  ordered : p ≤ q
  level : ∀ o, o ≤ p → script.nesting o q = script.nesting o p
  inside : ∀ o r, o ≤ p → p ≤ r → r ≤ q → script.nesting o p ≤ script.nesting o r
  unbroken : ∀ j t, p ≤ j → j < q → script.tokens[j]? = some t → t.kind.endsStatement = false

namespace Balanced

variable {q r : Nat}

private theorem nil (script : Script) (p : Nat) : script.Balanced p p where
  ordered := Nat.le_refl p
  level _ _ := rfl
  inside o r _ behind within := by
    obtain rfl : r = p := by omega
    exact Int.le_refl _
  unbroken _ _ behind within := by omega

private theorem trans (first : script.Balanced p q) (second : script.Balanced q r) : script.Balanced p r where
  ordered := Nat.le_trans first.ordered second.ordered
  level o before := by
    rw [second.level o (Nat.le_trans before first.ordered), first.level o before]
  inside o k before behind within := by
    rcases Nat.le_total k q with near | far
    · exact first.inside o k before behind near
    · have later := second.inside o k (Nat.le_trans before first.ordered) far within
      rw [first.level o before] at later
      exact later
  unbroken j t behind within read := by
    rcases Nat.lt_or_ge j q with near | far
    · exact first.unbroken j t behind near read
    · exact second.unbroken j t far within read

/-- A token that is no parenthesis. -/
theorem token (read : script.tokens[p]? = some t) (light : t.kind.paren = 0)
    (inside : t.kind.endsStatement = false) : script.Balanced p (p + 1) where
  ordered := Nat.le_succ p
  level o before := by rw [nesting_succ before read, light, Int.add_zero]
  inside o r before behind within := by
    rcases Nat.eq_or_lt_of_le behind with rfl | later
    · exact Int.le_refl _
    · obtain rfl : r = p + 1 := by omega
      have same : script.nesting o (p + 1) = script.nesting o p := by
        rw [nesting_succ before read, light, Int.add_zero]
      exact Int.le_of_eq same.symm
  unbroken j u behind within found := by
    obtain rfl : j = p := by omega
    obtain rfl : t = u := by simpa [read] using found
    exact inside

/-- Parentheses around tokens that open and close them in pairs. -/
theorem parens (opening : KindAt script.tokens p .openParen) (between : script.Balanced (p + 1) q)
    (close : KindAt script.tokens q .closeParen) : script.Balanced p (q + 1) := by
  obtain ⟨t, read, opens⟩ := opening
  obtain ⟨u, found, closes⟩ := close
  have ordered := between.ordered
  have up : ∀ o, o ≤ p → script.nesting o (p + 1) = script.nesting o p + 1 := by
    intro o before
    rw [nesting_succ before read, opens]
    rfl
  have down : ∀ o, o ≤ p → script.nesting o (q + 1) = script.nesting o p := by
    intro o before
    rw [nesting_succ (by omega) found, closes, between.level o (by omega), up o before]
    exact Int.add_neg_cancel_right _ 1
  refine ⟨by omega, down, ?_, ?_⟩
  · intro o r before behind within
    rcases Nat.eq_or_lt_of_le behind with rfl | later
    · exact Int.le_refl _
    rcases Nat.eq_or_lt_of_le within with rfl | earlier
    · exact Int.le_of_eq (down o before).symm
    · have higher := between.inside o r (by omega) later (by omega)
      rw [up o before] at higher
      omega
  · intro j v behind within at_j
    rcases Nat.eq_or_lt_of_le behind with rfl | later
    · obtain rfl : t = v := by simpa [read] using at_j
      rw [opens]
      rfl
    rcases Nat.eq_or_lt_of_le (Nat.lt_succ_iff.mp within) with rfl | earlier
    · obtain rfl : u = v := by simpa [found] using at_j
      rw [closes]
      rfl
    · exact between.unbroken j v later earlier at_j

end Balanced

private theorem balanced_callee (callee : CalleeAt script.tokens p) : script.Balanced p (p + 1) := by
  obtain ⟨⟨t, read, name⟩, _⟩ := callee
  have value := Token.isValue_of_isName name
  exact .token read (Token.paren_of_isValue value) (Token.not_endsStatement_of_isValue value)

private theorem balanced_of_derives {phrase : Phrase} (derives : Derives script.tokens phrase p e) :
    script.Balanced p (e + 1) := by
  induction derives with
  | bare callee close =>
    exact (balanced_callee callee).trans (.parens callee.2 (.nil script _) close)
  | list callee _ close ih => exact (balanced_callee callee).trans (.parens callee.2 ih close)
  | nested _ ih => exact ih
  | single value _ =>
    rcases value with ⟨t, read, kind⟩ | ⟨t, read, kind⟩
    · exact .token read (by rw [kind]; rfl) (by rw [kind]; rfl)
    · exact .token read (by rw [kind]; rfl) (by rw [kind]; rfl)
  | last _ ih => exact ih
  | more _ comma _ first rest =>
    obtain ⟨t, read, kind⟩ := comma
    exact (first.trans (.token read (by rw [kind]; rfl) (by rw [kind]; rfl))).trans rest

private theorem exists_between (derives : Derives script.tokens .call p e) :
    CalleeAt script.tokens p ∧ script.Balanced (p + 2) e ∧ KindAt script.tokens e .closeParen := by
  cases derives with
  | bare callee close => exact ⟨callee, .nil script _, close⟩
  | list callee args close => exact ⟨callee, balanced_of_derives args, close⟩

/-- A call ends at the parenthesis that matches its opening one. -/
theorem matches_of_derives (derives : Derives script.tokens .call p e) : script.Matches (p + 1) e := by
  obtain ⟨⟨_, u, next, opens⟩, between, v, found, closes⟩ := exists_between derives
  have ordered := between.ordered
  have first : script.nesting (p + 1) (p + 2) = 1 := by
    rw [nesting_succ (Nat.le_refl _) next, nesting_self, opens]
    rfl
  refine ⟨by omega, ⟨u, next, opens⟩, ⟨v, found, closes⟩, ?_, ?_⟩
  · intro r behind within
    have higher := between.inside (p + 1) r (by omega) behind within
    omega
  · rw [nesting_succ (by omega) found, between.level (p + 1) (by omega), first, closes]
    rfl

/-- A call is read up to a position exactly when the tokens up to there derive from the grammar of calls. There
is at most one such position. It is that of the parenthesis that matches the one behind the callee, and no
statement ends before it. Where there is none, the call is given up. -/
theorem close_evaluate_iff (script : Script) (table : Table) {p : Nat} (t : Token)
    (callee : script.isCallee p = true) :
    (∀ e, (script.evaluate table p t).close = some e ↔ Derives script.tokens .call p e) ∧
      ((script.evaluate table p t).close = none ↔ ¬ ∃ e, Derives script.tokens .call p e) ∧
      ∀ e, Derives script.tokens .call p e →
        (∀ other, Derives script.tokens .call p other → other = e) ∧ script.Matches (p + 1) e ∧
          ∀ j u, p ≤ j → j ≤ e → script.tokens[j]? = some u → u.kind.endsStatement = false := by
  have closes : ∀ e, (script.evaluate table p t).close = some e ↔ Derives script.tokens .call p e :=
    fun e => close_evaluate table t callee
  refine ⟨closes, ?_, ?_⟩
  · rw [Option.eq_none_iff_forall_ne_some]
    simp only [ne_eq, closes, not_exists]
  · intro e derives
    refine ⟨?_, matches_of_derives derives, ?_⟩
    · intro other again
      have same := (closes e).mpr derives
      rw [(closes other).mpr again] at same
      exact Option.some.inj same
    · intro j u behind within read
      exact (balanced_of_derives derives).unbroken j u behind (by omega) read

/-- A call of functions that do not exist is read to its end, and one with a comma too many is given up. -/
theorem unknown_closes_and_comma_gives_up :
    let script : Script := ⟨tokenize "f(g(), 1); h(2,);", Registry.empty⟩
    script.isCallee 0 = true ∧
      (script.evaluate {} 0 ⟨.identifier, "f", 1, ⟨0, 0⟩, ⟨0, 1⟩⟩).outcome = .failed ∧
      Derives script.tokens .call 0 7 ∧ script.Matches 1 7 ∧
      script.isCallee 9 = true ∧ ¬ ∃ e, Derives script.tokens .call 9 e := by
  intro script
  have callee : script.isCallee 0 = true := by decide +kernel
  have other : script.isCallee 9 = true := by decide +kernel
  obtain ⟨closes, _, derived⟩ :=
    script.close_evaluate_iff {} ⟨.identifier, "f", 1, ⟨0, 0⟩, ⟨0, 1⟩⟩ callee
  have derives : Derives script.tokens .call 0 7 := (closes 7).mp (by decide +kernel)
  refine ⟨callee, by decide +kernel, derives, (derived 7 derives).2.1, other, ?_⟩
  exact (script.close_evaluate_iff {} ⟨.identifier, "h", 1, ⟨0, 0⟩, ⟨11, 12⟩⟩ other).2.1.mp
    (by decide +kernel)

end Script

end ScriptCheck
