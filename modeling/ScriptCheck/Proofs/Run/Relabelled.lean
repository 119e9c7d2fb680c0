import ScriptCheck.Proofs.Call.Nesting
import ScriptCheck.Proofs.Run.Rules
import ScriptCheck.Proofs.Table.Respelled

/-! # Tokens with other texts and places

A check compares names and looks into none of them, numerals apart, and where a token stands in the source it only
ever writes down. So every rule commutes with another labelling of the tokens, as long as string literals and callees
keep their texts (`Script.step_relabel`), and with it the run as a whole, its messages included
(`Script.run_relabel`).
-/

namespace ScriptCheck

/-- Another spelling of all words, and another line and span for every token. -/
structure Relabelling extends Respelling where
  line : Nat → Nat
  span : Span → Span

instance : CoeFun Relabelling fun _ => String → String := ⟨fun ρ => ρ.spell⟩

/-! ### Labels -/

section

variable (ρ : Relabelling)

def Token.relabel (t : Token) : Token := { t with text := ρ t.text, line := ρ.line t.line, span := ρ.span t.span }

def Source.relabel : Source → Source
  | word text => word (ρ text)
  | literal contents => literal contents

/-- The problem about other words and lines. A refused call is one of a callee, whose text stays. -/
def Problem.relabel : Problem → Problem
  | badStart text => badStart (ρ text)
  | unfinishedStatement line => unfinishedStatement (ρ.line line)
  | missingDefinition line => missingDefinition (ρ.line line)
  | missingSource line => missingSource (ρ.line line)
  | misplacedEquals before => misplacedEquals (ρ before)
  | misplacedType before => misplacedType (ρ before)
  | adjacent before after => adjacent (ρ before) (ρ after)
  | invalidName text => invalidName (ρ text)
  | redeclared name => redeclared (ρ name)
  | hidden name => hidden (ρ name)
  | unknownSource source target => unknownSource (ρ source) (ρ target)
  | constantTarget text => constantTarget (ρ text)
  | literalTarget text => literalTarget (ρ text)
  | unknownTarget name => unknownTarget (ρ name)
  | sourceType source target => sourceType (source.relabel ρ) (ρ target)
  | voidSource callee target => voidSource (ρ callee) (ρ target)
  | resultType callee target => resultType (ρ callee) (ρ target)
  | unknownOperand name => unknownOperand (ρ name)
  | voidOperand callee => voidOperand (ρ callee)
  | unknownLeft operator name => unknownLeft (ρ operator) (ρ name)
  | operandType operand target => operandType (ρ operand) (ρ target)
  | stringMinus => stringMinus
  | unknownArgument name callee => unknownArgument (ρ name) (ρ callee)
  | voidArgument argument callee => voidArgument (ρ argument) (ρ callee)
  | expectedArgument callee found => expectedArgument (ρ callee) (ρ found)
  | expectedSeparator callee found => expectedSeparator (ρ callee) (ρ found)
  | unclosedCall callee => unclosedCall (ρ callee)
  | refusedCall error => refusedCall error

def Site.relabel (site : Site) : Site := ⟨site.position, site.token.relabel ρ⟩

def Finding.relabel (finding : Finding) : Finding := ⟨finding.site.relabel ρ, finding.problem.relabel ρ⟩

def Invocation.relabel (call : Invocation) : Invocation := { call with callee := call.callee.relabel ρ }

def Event.relabel : Event → Event
  | declared site type => declared (site.relabel ρ) type
  | stored site target value => stored (site.relabel ρ) (ρ target) value
  | folded site target operator result => folded (site.relabel ρ) (ρ target) (ρ operator) result
  | called call => called (call.relabel ρ)
  | reported finding => reported (finding.relabel ρ)

def Frame.relabel (frame : Frame) : Frame := { frame with callee := frame.callee.relabel ρ }

def CallResult.relabel (result : CallResult) : CallResult :=
  { result with events := result.events.map (Event.relabel ρ) }

def OperandResult.relabel (read : OperandResult) : OperandResult :=
  { read with call := read.call.map (CallResult.relabel ρ), events := read.events.map (Event.relabel ρ) }

def State.relabel (state : State) : State := { state with table := state.table.rename ρ }

def Progress.relabel (progress : Progress) : Progress :=
  ⟨progress.state.relabel ρ, progress.events.map (Event.relabel ρ)⟩

def Ruling.relabel (ruling : Ruling) : Ruling := ⟨ruling.progress.relabel ρ, ruling.continues⟩

def Script.relabel (script : Script) : Script := ⟨script.tokens.map (Token.relabel ρ), script.natives⟩

end

variable (ρ : Relabelling)

namespace Token

variable (t : Token)

@[simp] theorem relabel_kind : (t.relabel ρ).kind = t.kind := rfl

@[simp] theorem relabel_text : (t.relabel ρ).text = ρ t.text := rfl

@[simp] theorem relabel_scope : (t.relabel ρ).scope = t.scope := rfl

@[simp] theorem relabel_isValue : (t.relabel ρ).isValue = t.isValue := rfl

@[simp] theorem relabel_number? : (t.relabel ρ).number? = t.number? := by
  simp [number?, ρ.value?_spell]

@[simp] theorem relabel_isNumber : (t.relabel ρ).isNumber = t.isNumber := by
  simp [isNumber]

@[simp] theorem relabel_isName : (t.relabel ρ).isName = t.isName := by
  simp [isName]

end Token

@[simp] theorem Site.relabel_token (site : Site) : (site.relabel ρ).token = site.token.relabel ρ := rfl

@[simp] theorem State.relabel_table (state : State) : (state.relabel ρ).table = state.table.rename ρ := rfl

@[simp] theorem State.relabel_refused (state : State) : (state.relabel ρ).refused = state.refused := rfl

private theorem Script.opensCall_relabel (t : Token) (next : Option Token) :
    opensCall (t.relabel ρ) (next.map (Token.relabel ρ)) = opensCall t next := by
  cases next <;> simp [opensCall]

private theorem Event.finding?_relabel (event : Event) :
    (event.relabel ρ).finding? = event.finding?.map (Finding.relabel ρ) := by
  cases event <;> rfl

@[simp] theorem Event.operations_relabel (event : Event) : (event.relabel ρ).operations = event.operations := by
  cases event <;> rfl

private theorem CallResult.after_relabel (events : List Event) (result : CallResult) :
    (result.after events).relabel ρ = (result.relabel ρ).after (events.map (Event.relabel ρ)) := by
  simp [relabel, after]

private theorem Progress.after_relabel (events : List Event) (progress : Progress) :
    (progress.after events).relabel ρ = (progress.relabel ρ).after (events.map (Event.relabel ρ)) := by
  simp [relabel, after]

private theorem Ruling.after_relabel (events : List Event) (progress : Progress) (continues : Bool) :
    (⟨progress.after events, continues⟩ : Ruling).relabel ρ =
      ⟨(progress.relabel ρ).after (events.map (Event.relabel ρ)), continues⟩ := by
  rw [relabel, Progress.after_relabel]

/-! ### Texts that stay -/

/-- The respelling leaves the string literals and the callees among these tokens as they are. -/
def Respelling.Spares (σ : Respelling) (ts : List Token) : Prop :=
  ∀ i t, ts[i]? = some t → t.kind = .stringLiteral ∨ Script.opensCall t ts[i + 1]? = true → σ t.text = t.text

namespace Respelling.Spares

variable {σ : Respelling} {ts rest : List Token} {t : Token} {script : Script} {i : Nat}

private theorem head (spares : σ.Spares (t :: rest))
    (stays : t.kind = .stringLiteral ∨ Script.opensCall t rest.head? = true) : σ t.text = t.text :=
  spares 0 t rfl (by simpa [List.head?_eq_getElem?] using stays)

private theorem tail (spares : σ.Spares (t :: rest)) : σ.Spares rest :=
  fun i t found stays => spares (i + 1) t found stays

private theorem drop (spares : σ.Spares ts) (n : Nat) : σ.Spares (ts.drop n) := by
  intro i t found stays
  rw [List.getElem?_drop] at found
  rw [List.getElem?_drop] at stays
  exact spares (n + i) t found stays

theorem callee (spares : σ.Spares script.tokens) (here : script.tokens[i]? = some t)
    (callee : script.isCallee i = true) : σ t.text = t.text := by
  rw [Script.isCallee, here] at callee
  exact spares i t here (.inr callee)

private theorem literal (spares : σ.Spares script.tokens) (here : script.tokens[i]? = some t)
    (literal : t.kind = .stringLiteral) : σ t.text = t.text :=
  spares i t here (.inl literal)

end Respelling.Spares

namespace Token

variable {ρ} {t : Token}

private theorem relabel_contents? (stays : t.kind = .stringLiteral → ρ t.text = t.text) :
    (t.relabel ρ).contents? = t.contents? := by
  unfold contents?
  rw [relabel_kind, relabel_text]
  split
  · next literal => rw [stays literal]
  · rfl

private theorem relabel_literal? (stays : t.kind = .stringLiteral → ρ t.text = t.text) :
    (t.relabel ρ).literal? = t.literal? := by
  rw [literal?, literal?, relabel_number?, relabel_contents? stays]

private theorem relabel_asSource (stays : t.kind = .stringLiteral → ρ t.text = t.text) :
    (t.relabel ρ).asSource = t.asSource.relabel ρ := by
  rw [asSource, asSource, relabel_contents? stays]
  cases t.contents? <;> rfl

end Token

/-! ### Calls -/

namespace Frame

variable {ρ} {frame : Frame}

private theorem take_relabel (table : Table) (site : Site)
    (stays : site.token.kind = .stringLiteral → ρ site.token.text = site.token.text) :
    (frame.relabel ρ).take (table.rename ρ) (site.relabel ρ) =
      ((frame.take table site).1.relabel ρ, (frame.take table site).2.map (Event.relabel ρ)) := by
  simp only [take, Site.relabel_token, Token.relabel_literal? stays, Token.relabel_text, Token.relabel_scope,
    Table.resolve_respell]
  split
  · rfl
  split <;> rfl

private theorem receive_relabel (callee : Site) (outcome : Outcome) :
    (frame.relabel ρ).receive (callee.relabel ρ) outcome =
      ((frame.receive callee outcome).1.relabel ρ, (frame.receive callee outcome).2.map (Event.relabel ρ)) := by
  cases outcome <;> rfl

private theorem run_relabel (natives : Registry) (close : Nat) (stays : ρ frame.name = frame.name) :
    (frame.relabel ρ).run natives close =
      ((frame.run natives close).1, (frame.run natives close).2.map (Event.relabel ρ)) := by
  have name : (frame.relabel ρ).name = frame.name := stays
  have args : (frame.relabel ρ).args = frame.args := rfl
  have complete : (frame.relabel ρ).complete = frame.complete := rfl
  simp only [run, name, args, complete]
  split
  · rfl
  split
  · rfl
  split <;> rfl

end Frame

private theorem CallResult.abandoned_relabel (frame : Frame) (problem : Problem) (position : Nat) (rest : List Token) :
    abandoned (frame.relabel ρ) (problem.relabel ρ) position (rest.map (Token.relabel ρ)) =
      (abandoned frame problem position rest).relabel ρ := by
  have same : Script.statementEnd position (rest.map (Token.relabel ρ)) = Script.statementEnd position rest := by
    rw [Script.statementEnd, List.takeWhile_map, List.length_map]
    rfl
  simp [abandoned, relabel, Event.relabel, Finding.relabel, Frame.relabel, same]

variable {ρ}

private theorem readCall_relabel (natives : Registry) (table : Table) {ts : List Token} (spares : ρ.Spares ts)
    (position : Nat) (expected : Expected) (top : Frame) (below : List Frame)
    (stay : ∀ frame ∈ top :: below, ρ frame.name = frame.name) :
    readCall natives (table.rename ρ) (ts.map (Token.relabel ρ)) position expected (top.relabel ρ)
        (below.map (Frame.relabel ρ)) = (readCall natives table ts position expected top below).relabel ρ := by
  fun_induction readCall natives table ts position expected top below with
  | case1 position expected top below => exact CallResult.abandoned_relabel ρ top (.unclosedCall top.name) position []
  | case2 t rest position expected top below ends =>
    rw [List.map_cons, readCall, if_pos (by exact ends)]
    exact CallResult.abandoned_relabel ρ top (.unclosedCall top.name) position (t :: rest)
  | case3 t rest position top below inside ih =>
    rw [List.map_cons, readCall, if_neg (by exact inside), if_pos rfl]
    exact ih spares.tail stay
  | case4 t rest position expected top inside notOpening closing =>
    rw [List.map_cons, readCall, if_neg (by exact inside), if_neg notOpening, if_pos (by exact closing)]
    simp only [Frame.run_relabel natives position (stay top (List.mem_cons_self ..)), List.map_nil]
    rfl
  | case5 t rest position expected top inside notOpening closing ran parent others heard ih =>
    obtain ⟨atTop, outside⟩ := List.forall_mem_cons.mp stay
    obtain ⟨atParent, around⟩ := List.forall_mem_cons.mp outside
    have inner : (top.relabel ρ).run natives position = (ran.1, ran.2.map (Event.relabel ρ)) :=
      Frame.run_relabel natives position atTop
    have outer : (parent.relabel ρ).receive (top.relabel ρ).callee ran.1 =
        (heard.1.relabel ρ, heard.2.map (Event.relabel ρ)) := Frame.receive_relabel top.callee ran.1
    have name : heard.1.name = parent.name := by rw [Frame.name, Frame.receive_callee, Frame.name]
    have behind := ih spares.tail (List.forall_mem_cons.mpr ⟨by rwa [name], around⟩)
    rw [List.map_cons, readCall, if_neg (by exact inside), if_neg notOpening, if_pos (by exact closing)]
    simp only [List.map_cons, inner, outer, behind, CallResult.after_relabel, List.map_append]
  | case6 t rest position top below inside comma notOpening notClosing ih =>
    rw [List.map_cons, readCall, if_neg (by exact inside), if_neg notOpening, if_neg (by exact notClosing),
      if_pos rfl, if_pos (by exact comma)]
    exact ih spares.tail stay
  | case7 t rest position top below inside notComma notOpening notClosing =>
    rw [List.map_cons, readCall, if_neg (by exact inside), if_neg notOpening, if_neg (by exact notClosing),
      if_pos rfl, if_neg (by exact notComma)]
    exact CallResult.abandoned_relabel ρ top (.expectedSeparator top.name t.text) position (t :: rest)
  | case8 t rest position expected top below inside notOpening notClosing notSeparator calls ih =>
    have called := ih spares.tail (List.forall_mem_cons.mpr ⟨spares.head (.inr calls), stay⟩)
    rw [List.map_cons, readCall, if_neg (by exact inside), if_neg notOpening, if_neg (by exact notClosing),
      if_neg notSeparator, List.head?_map, Script.opensCall_relabel, if_pos calls]
    exact congrArg (CallResult.meeting position) called
  | case9 t rest position expected top below inside notOpening notClosing notSeparator single value taken ih =>
    obtain ⟨atTop, around⟩ := List.forall_mem_cons.mp stay
    have same : (top.relabel ρ).take (table.rename ρ) ⟨position, t.relabel ρ⟩ =
        (taken.1.relabel ρ, taken.2.map (Event.relabel ρ)) :=
      Frame.take_relabel table ⟨position, t⟩ fun literal => spares.head (.inl literal)
    have name : taken.1.name = top.name := by rw [Frame.name, Frame.take_callee, Frame.name]
    have behind := ih spares.tail (List.forall_mem_cons.mpr ⟨by rwa [name], around⟩)
    rw [List.map_cons, readCall, if_neg (by exact inside), if_neg notOpening, if_neg (by exact notClosing),
      if_neg notSeparator, List.head?_map, Script.opensCall_relabel, if_neg single, if_pos (by exact value)]
    simp only [same, behind, CallResult.after_relabel]
  | case10 t rest position expected top below inside notOpening notClosing notSeparator single notValue =>
    rw [List.map_cons, readCall, if_neg (by exact inside), if_neg notOpening, if_neg (by exact notClosing),
      if_neg notSeparator, List.head?_map, Script.opensCall_relabel, if_neg single, if_neg (by exact notValue)]
    exact CallResult.abandoned_relabel ρ top (.expectedArgument top.name t.text) position (t :: rest)

/-! ### Rules that look at the variables only

Both sides of an equation decide the same condition, one of them with an instance about a relabelled token. The two
are split together only if that instance is rewritten as well, so `simp` is asked for proofs.
-/

namespace State

variable (ρ) (state : State) (site : Site)

private theorem declare_relabel (type : ValueType) :
    (state.relabel ρ).declare (site.relabel ρ) type = (state.declare site type).relabel ρ := by
  simp -implicitDefEqProofs only [declare, Site.relabel_token, Token.relabel_isName, Token.relabel_text,
    Token.relabel_scope, relabel_table, Table.declare?_respell]
  split
  · rfl
  cases state.table.declare? site.token.text type site.token.scope <;> rfl

private theorem endStatement_relabel (previous : Token) :
    (state.relabel ρ).endStatement (site.relabel ρ) (previous.relabel ρ) =
      (state.endStatement site previous).relabel ρ := by
  have operand : (previous.relabel ρ).endsOperand = previous.endsOperand := rfl
  have type : (previous.relabel ρ).isType = previous.isType := rfl
  simp -implicitDefEqProofs only [endStatement, Token.relabel_kind, operand, type]
  repeat' split
  all_goals rfl

private theorem destination_relabel (position : Nat) (target : Token) :
    (state.relabel ρ).destination position (target.relabel ρ) (site.relabel ρ) =
      ((state.destination position target site).1.map ρ,
        (state.destination position target site).2.map (Event.relabel ρ)) := by
  simp -implicitDefEqProofs only [destination, Token.relabel_text, Token.relabel_scope, Token.relabel_kind,
    Token.relabel_isNumber, relabel_table, relabel_refused, Table.resolve_respell]
  repeat' split
  all_goals rfl

private theorem store_relabel (target : String) (value : Value) (mismatch : Problem) :
    (state.relabel ρ).store (site.relabel ρ) (ρ target) value (mismatch.relabel ρ) =
      (state.store site target value mismatch).relabel ρ := by
  simp only [store, relabel_table, Table.find?_respell]
  cases state.table.find? target with
  | none => rfl
  | some symbol =>
    have type : (symbol.rename ρ).type = symbol.type := rfl
    simp -implicitDefEqProofs only [Option.map_some, type, Table.assign_respell]
    split <;> rfl

private theorem storeOutcome_relabel (target : String) (outcome : Outcome) :
    (state.relabel ρ).storeOutcome (site.relabel ρ) (ρ target) outcome =
      (state.storeOutcome site target outcome).relabel ρ := by
  cases outcome with
  | failed | void => rfl
  | value value =>
    exact congrArg Ruling.progress (state.store_relabel ρ site target value (.resultType site.token.text target))

private theorem fold_relabel (operator : Operator) (op target : Token) (value : Value) :
    (state.relabel ρ).fold (site.relabel ρ) operator (op.relabel ρ) (target.relabel ρ) value =
      (state.fold site operator op target value).relabel ρ := by
  simp -implicitDefEqProofs only [fold, Token.relabel_text, Token.relabel_scope, relabel_table,
    Table.resolve_respell, Table.update_respell]
  repeat' split
  all_goals rfl

private theorem noting_relabel (result : CallResult) :
    (state.relabel ρ).noting (result.relabel ρ) = (state.noting result).relabel ρ := rfl

private theorem notingOperand_relabel (read : OperandResult) :
    (state.relabel ρ).notingOperand (read.relabel ρ) = (state.notingOperand read).relabel ρ := by
  obtain ⟨_, _ | _, _⟩ := read <;> rfl

private theorem begin_relabel : (state.relabel ρ).begin (site.relabel ρ) = (state.begin site).relabel ρ := by
  have type : (site.token.relabel ρ).isType = site.token.isType := rfl
  simp -implicitDefEqProofs only [begin, Site.relabel_token, Token.relabel_kind, type]
  split <;> rfl

end State

/-! ### Rules that look at the tokens -/

namespace Script

section

variable (ρ) (script : Script) (state : State) (i : Nat)

theorem getElem?_relabel : (script.relabel ρ).tokens[i]? = script.tokens[i]?.map (Token.relabel ρ) :=
  List.getElem?_map

private theorem before?_relabel (back : Nat) :
    (script.relabel ρ).before? i back = (script.before? i back).map (Token.relabel ρ) := by
  unfold before?
  split
  · exact script.getElem?_relabel ρ _
  · rfl

private theorem isCallee_relabel : (script.relabel ρ).isCallee i = script.isCallee i := by
  rw [isCallee, isCallee, getElem?_relabel, getElem?_relabel, Option.any_map]
  congr 1
  funext t
  exact opensCall_relabel ρ t _

private theorem hasLeft_relabel : (script.relabel ρ).hasLeft i = script.hasLeft i := by
  rw [hasLeft, before?_relabel, Option.any_map]
  rfl

private theorem nearest?_relabel (depth : Nat) : (script.relabel ρ).nearest? depth i = script.nearest? depth i := by
  induction i generalizing depth with
  | zero => rfl
  | succ j ih =>
    rw [nearest?, nearest?, getElem?_relabel, isCallee_relabel]
    cases script.tokens[j]? with
    | none => rfl
    | some t => simp only [Option.map_some, Token.relabel_kind, Token.relabel_isName, ih]

private theorem foldTarget_relabel : (script.relabel ρ).foldTarget (state.relabel ρ) i = script.foldTarget state i := by
  have chain : (state.relabel ρ).chain = state.chain := rfl
  simp only [foldTarget, nearest?_relabel, chain]

private theorem foldAt_relabel (target : Nat) (operator : Operator) (op current : Token) (value : Value) :
    (script.relabel ρ).foldAt (state.relabel ρ) i target operator (op.relabel ρ) (current.relabel ρ) value =
      (script.foldAt state i target operator op current value).relabel ρ := by
  unfold foldAt
  rw [getElem?_relabel, State.relabel_refused]
  split
  · rfl
  cases script.tokens[target]? with
  | none => rfl
  | some left => exact state.fold_relabel ρ ⟨i, current⟩ operator op left value

private theorem useOperand_relabel (operator : Operator) (op current : Token) (read : OperandResult) :
    (script.relabel ρ).useOperand (state.relabel ρ) i operator (op.relabel ρ) (current.relabel ρ) (read.relabel ρ) =
      (script.useOperand state i operator op current read).relabel ρ := by
  have operand : (read.relabel ρ).operand = read.operand := rfl
  simp only [useOperand, operand, foldTarget_relabel, Token.relabel_isName]
  split
  · rename_i operand target _ _
    rw [Progress.after_relabel, ← foldAt_relabel]
    rfl
  · rfl

end

variable {script : Script} {i : Nat} {current : Token} (spares : ρ.Spares script.tokens)
  (here : script.tokens[i]? = some current)

include spares here

private theorem evaluate_relabel (callee : script.isCallee i = true) (table : Table) :
    (script.relabel ρ).evaluate (table.rename ρ) i (current.relabel ρ) =
      (script.evaluate table i current).relabel ρ := by
  have behind : (script.relabel ρ).tokens.drop (i + 2) = (script.tokens.drop (i + 2)).map (Token.relabel ρ) :=
    List.map_drop.symm
  have same := readCall_relabel script.natives table (spares.drop (i + 2)) (i + 2) .first ⟨⟨i, current⟩, [], true⟩ []
    (by simpa [Frame.name] using spares.callee here callee)
  rw [evaluate, behind]
  exact congrArg (CallResult.meeting i) same

private theorem operand_relabel (table : Table) (op : Token) :
    (script.relabel ρ).operand (table.rename ρ) i (op.relabel ρ) (current.relabel ρ) =
      (script.operand table i op current).relabel ρ := by
  unfold operand
  rw [isCallee_relabel]
  cases callee : script.isCallee i with
  | true =>
    simp only [if_true, evaluate_relabel spares here callee]
    generalize script.evaluate table i current = call
    obtain ⟨_ | _ | _, _ | _, events, _, _⟩ := call
    all_goals
      simp [CallResult.relabel, OperandResult.relabel, Event.relabel, Finding.relabel, Site.relabel, Problem.relabel]
  | false =>
    simp -implicitDefEqProofs only [Bool.false_eq_true, if_false, Token.relabel_literal? (spares.literal here),
      Token.relabel_kind, Token.relabel_text, Token.relabel_scope, Table.resolve_respell]
    split
    · rfl
    split
    · rfl
    split <;> rfl

private theorem combine_relabel (state : State) (operator : Operator) (op : Token) :
    (script.relabel ρ).combine (state.relabel ρ) i operator (op.relabel ρ) (current.relabel ρ) =
      (script.combine state i operator op current).relabel ρ := by
  simp only [combine, hasLeft_relabel, State.relabel_table, operand_relabel spares here, State.notingOperand_relabel,
    useOperand_relabel]
  split <;> rfl

private theorem assign_relabel (state : State) (target : Token) :
    (script.relabel ρ).assign (state.relabel ρ) i (target.relabel ρ) (current.relabel ρ) =
      (script.assign state i target current).relabel ρ := by
  have misplaced : (current.relabel ρ).kind.isMisplacedSource = current.kind.isMisplacedSource := rfl
  have settled := state.destination_relabel ρ ⟨i, current⟩ (i - 2) target
  simp only [Site.relabel] at settled
  unfold assign
  rw [isCallee_relabel]
  cases callee : script.isCallee i with
  | true =>
    simp only [if_true, settled, State.relabel_table, evaluate_relabel spares here callee]
    have events : ((script.evaluate state.table i current).relabel ρ).events =
        (script.evaluate state.table i current).events.map (Event.relabel ρ) := rfl
    rw [Ruling.after_relabel, List.map_append, events, State.noting_relabel]
    cases (state.destination (i - 2) target ⟨i, current⟩).1 with
    | none => rfl
    | some name =>
      have stored := (state.noting (script.evaluate state.table i current)).storeOutcome_relabel ρ ⟨i, current⟩ name
        (script.evaluate state.table i current).outcome
      exact congrArg (fun progress : Progress => (⟨progress.after _, false⟩ : Ruling)) stored
  | false =>
    simp -implicitDefEqProofs only [Bool.false_eq_true, if_false, settled, misplaced, Token.relabel_isValue,
      Token.relabel_literal? (spares.literal here), Token.relabel_text, Token.relabel_scope, State.relabel_table,
      Table.resolve_respell, Token.relabel_asSource (spares.literal here)]
    split
    · split
      · rw [Ruling.after_relabel]
        rfl
      · rfl
    split
    · rw [Ruling.after_relabel]
      rfl
    · rw [Ruling.after_relabel]
      rfl
    cases (state.destination (i - 2) target ⟨i, current⟩).1 with
    | none => rfl
    | some name =>
      rename_i value _
      dsimp only [Option.map_some]
      rw [Ruling.after_relabel]
      have stored := state.store_relabel ρ ⟨i, current⟩ name value (.sourceType current.asSource name)
      exact congrArg (fun ruling : Ruling => (⟨ruling.progress.after _, ruling.continues⟩ : Ruling)) stored

private theorem evaluateFresh_relabel (declared : Progress) :
    (script.relabel ρ).evaluateFresh i (current.relabel ρ) (declared.relabel ρ) =
      (script.evaluateFresh i current declared).relabel ρ := by
  have state : (declared.relabel ρ).state = declared.state.relabel ρ := rfl
  have evaluated : (declared.state.relabel ρ).evaluated = declared.state.evaluated := rfl
  simp only [evaluateFresh, isCallee_relabel, state, evaluated, State.relabel_table]
  split
  · next fresh =>
    rw [evaluate_relabel spares here (by simp_all)]
    exact congrArg (Progress.mk _) List.map_append.symm
  · rfl

private theorem enterValue_relabel (state : State) (previous : Token) :
    (script.relabel ρ).enterValue (state.relabel ρ) i (previous.relabel ρ) (current.relabel ρ) =
      (script.enterValue state i previous current).relabel ρ := by
  simp -implicitDefEqProofs only [enterValue_eq, Token.relabel_isValue, Token.relabel_kind]
  split
  · rfl
  rw [← evaluateFresh_relabel spares here]
  congr 1
  cases previous.kind.declares? with
  | some type => exact state.declare_relabel ρ ⟨i, current⟩ type
  | none => rfl

private theorem checkGrammar_relabel (state : State) (previous : Token) :
    (script.relabel ρ).checkGrammar (state.relabel ρ) i (previous.relabel ρ) (current.relabel ρ) =
      (script.checkGrammar state i previous current).relabel ρ := by
  simp -implicitDefEqProofs only [checkGrammar, Token.relabel_kind, Token.relabel_isValue,
    enterValue_relabel spares here]
  split
  case h_3 => exact state.endStatement_relabel ρ ⟨i, current⟩ previous
  case h_8 | h_9 => rfl
  all_goals first | rfl | (split <;> rfl)

private theorem follow_relabel (state : State) (previous : Token) :
    (script.relabel ρ).follow (state.relabel ρ) i (previous.relabel ρ) (current.relabel ρ) =
      (script.follow state i previous current).relabel ρ := by
  simp -implicitDefEqProofs only [follow, Token.relabel_kind, combine_relabel spares here]
  cases previous.kind.operator? with
  | some operator => rfl
  | none =>
    dsimp only
    have target : (if previous.kind = .equals then (script.relabel ρ).before? i 2 else none) =
        (if previous.kind = .equals then script.before? i 2 else none).map (Token.relabel ρ) := by
      rw [before?_relabel]
      split <;> rfl
    rw [target]
    cases (if previous.kind = .equals then script.before? i 2 else none) with
    | none => exact checkGrammar_relabel spares here state previous
    | some target =>
      simp only [Option.map_some, assign_relabel spares here]
      change (if (script.assign state i target current).continues then _ else _) = _
      split
      · rw [Progress.after_relabel, ← checkGrammar_relabel spares here]
        rfl
      · rfl

omit here

/-- The rule of a position does not depend on how variables are called and on where tokens stand in the source. -/
theorem step_relabel (state : State) (i : Nat) :
    (script.relabel ρ).step (state.relabel ρ) i = (script.step state i).relabel ρ := by
  have resume : (state.relabel ρ).resume = state.resume := rfl
  unfold step
  rw [getElem?_relabel, before?_relabel, resume]
  split
  · rfl
  cases here : script.tokens[i]? with
  | none => rfl
  | some current =>
    cases script.before? i 1 with
    | none => exact state.begin_relabel ρ ⟨i, current⟩
    | some previous => exact follow_relabel spares here state previous

private theorem steps_relabel (state : State) (positions : List Nat) :
    (script.relabel ρ).steps (state.relabel ρ) positions = (script.steps state positions).relabel ρ := by
  induction positions generalizing state with
  | nil => rfl
  | cons i rest ih =>
    rw [steps, steps, step_relabel spares, Progress.after_relabel]
    exact congrArg (Progress.after _) (ih _)

/-- A run does not depend on how variables are called and on where tokens stand in the source. -/
theorem run_relabel : (script.relabel ρ).run = script.run.relabel ρ := by
  rw [run, size, show (script.relabel ρ).tokens.length = script.size from List.length_map _]
  exact steps_relabel spares {} _

theorem symbols_relabel : (script.relabel ρ).report.symbols = script.report.symbols.map (Symbol.rename ρ) := by
  rw [report, run_relabel spares]
  rfl

theorem operations_relabel : (script.relabel ρ).report.operations = script.report.operations := by
  rw [report, report, Progress.report, Progress.report, run_relabel spares, Progress.relabel]
  simp only [List.flatMap_map, Event.operations_relabel]

theorem findings_relabel : (script.relabel ρ).run.findings = script.run.findings.map (Finding.relabel ρ) := by
  rw [run_relabel spares, Progress.findings, Progress.relabel, Progress.findings, List.map_filterMap,
    List.filterMap_map]
  exact List.filterMap_congr fun event _ => event.finding?_relabel ρ

end Script

end ScriptCheck
