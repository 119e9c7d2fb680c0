import ScriptCheck.Native.Builtin
import ScriptCheck.Proofs.Native.Signature
import ScriptCheck.Proofs.Run.Calls
import ScriptCheck.Proofs.Run.Provenance

/-! # Calls of the built-in functions

The body of a built-in function is written for the arguments that its signature accepts, so its last branch is
never taken: whatever a check passes to the body, it gets a value of the documented type, and from `messageBox` an
operation with two strings (`Script.builtins_reply`).
-/

namespace ScriptCheck

namespace Parameter

variable {arg : Value}

private theorem int_of_accepts (accepted : int.accepts arg.type = true) : ∃ n, arg = .int n := by
  cases arg <;> simp [accepts, Value.type] at accepted ⊢

private theorem float_of_accepts (accepted : float.accepts arg.type = true) : ∃ x, arg = .float x := by
  cases arg <;> simp [accepts, Value.type] at accepted ⊢

private theorem string_of_accepts (accepted : string.accepts arg.type = true) : ∃ s, arg = .string s := by
  cases arg <;> simp [accepts, Value.type] at accepted ⊢

end Parameter

/-! ### The built-in functions -/

namespace Builtin

/-- The built-in functions with the types of their values. A `messageBox` has none. -/
def results : List (String × Option ValueType) :=
  [("squareroot", some .float), ("power", some .float), ("messageBox", none), ("substring", some .string),
    ("size", some .int), ("toString", some .string)]

/-- What a built-in function replies to arguments that fit its signature: a value of its type, and an operation if
it is `messageBox`, whose arguments are two strings. -/
structure Replies (name : String) (args : List Value) (reply : Reply) : Prop where
  type : (name, reply.value.map Value.type) ∈ results
  operations : reply.operations = if name = "messageBox" then [⟨.messageBox, args⟩] else []
  strings : name = "messageBox" → ∃ title text, args = [.string title, .string text]

/-- The built-in functions reply as documented to arguments that fit their signatures. -/
theorem replies_body {native : Native} (builtin : native ∈ all) {args : List Value}
    (fits : native.Fits args) : Replies native.name args (native.body args) := by
  simp only [all, List.mem_cons, List.not_mem_nil, or_false] at builtin
  rcases builtin with rfl | rfl | rfl | rfl | rfl | rfl <;>
    simp only [Native.Fits, squareroot, power, messageBox, substring, size, text, List.forall₂_cons_left_iff,
      List.forall₂_nil_left_iff] at fits
  case inl =>
    obtain ⟨_, _, first, rfl, rfl⟩ := fits
    obtain ⟨x, rfl⟩ := Parameter.float_of_accepts first
    exact ⟨by simp [squareroot, results, Value.type], rfl, nofun⟩
  case inr.inl =>
    obtain ⟨_, _, first, ⟨_, _, second, rfl, rfl⟩, rfl⟩ := fits
    obtain ⟨base, rfl⟩ := Parameter.float_of_accepts first
    obtain ⟨exponent, rfl⟩ := Parameter.float_of_accepts second
    exact ⟨by simp [power, results, Value.type], rfl, nofun⟩
  case inr.inr.inl =>
    obtain ⟨_, _, first, ⟨_, _, second, rfl, rfl⟩, rfl⟩ := fits
    obtain ⟨title, rfl⟩ := Parameter.string_of_accepts first
    obtain ⟨text, rfl⟩ := Parameter.string_of_accepts second
    exact ⟨by simp [messageBox, results], rfl, fun _ => ⟨title, text, rfl⟩⟩
  case inr.inr.inr.inl =>
    obtain ⟨_, _, first, ⟨_, _, second, ⟨_, _, third, rfl, rfl⟩, rfl⟩, rfl⟩ := fits
    obtain ⟨s, rfl⟩ := Parameter.string_of_accepts first
    obtain ⟨start, rfl⟩ := Parameter.int_of_accepts second
    obtain ⟨length, rfl⟩ := Parameter.int_of_accepts third
    exact ⟨by simp [substring, results, Value.type], rfl, nofun⟩
  case inr.inr.inr.inr.inl =>
    obtain ⟨_, _, first, rfl, rfl⟩ := fits
    obtain ⟨s, rfl⟩ := Parameter.string_of_accepts first
    exact ⟨by simp [size, results, Value.type], rfl, nofun⟩
  case inr.inr.inr.inr.inr =>
    obtain ⟨_, _, _, rfl, rfl⟩ := fits
    exact ⟨by simp [text, results, Value.type], rfl, nofun⟩

/-- A call of a built-in function that goes through is replied to as documented. -/
theorem replies_of_call {name : String} {args : List Value} {reply : Reply}
    (replied : registry.call name args = .ok reply) : Replies name args reply := by
  obtain ⟨native, found, fits, rfl⟩ := Registry.call_eq_ok_iff.mp replied
  have builtin : native ∈ all := List.mem_of_find?_eq_some found
  obtain rfl := Registry.name_of_find? found
  exact replies_body builtin fits

/-- A built-in function without a value is `messageBox`. -/
theorem eq_messageBox_of_voids {name : String} (voids : registry.Voids name) : name = "messageBox" := by
  obtain ⟨args, reply, replied, none⟩ := voids
  have type := (replies_of_call replied).type
  simpa [none, results] using type

end Builtin

/-! ### Runs with the built-in functions -/

/-- The calls among which each records either one thing or nothing are mapped to what they record. -/
private theorem flatMap_eq_map_filter {calls : List Invocation} {p : Invocation → Bool}
    {f : Invocation → Operation}
    (each : ∀ call ∈ calls, Event.operations (.called call) = if p call then [f call] else []) :
    (calls.flatMap fun call => Event.operations (.called call)) = (calls.filter p).map f := by
  induction calls with
  | nil => rfl
  | cons call rest ih =>
    rw [List.flatMap_cons, each call (List.mem_cons_self ..), List.filter_cons,
      ih fun other member => each other (List.mem_cons_of_mem _ member)]
    split <;> rfl

namespace Script

/-- In a run with the built-in functions each call that goes through is replied to as documented. -/
theorem replies_of_mem_invocations {tokens : List Token} {call : Invocation} {reply : Reply}
    (made : call ∈ (run ⟨tokens, Builtin.registry⟩).invocations) (same : call.reply = some reply) :
    Builtin.Replies call.callee.token.text call.args reply := by
  obtain ⟨_, other, replied⟩ := ran_of_mem_invocations _ made (by rw [same]; rfl)
  obtain rfl := Option.some.inj (same.symm.trans other)
  exact Builtin.replies_of_call replied

/-- With the built-in functions the operations are those of the calls of `messageBox` that go through. -/
theorem operations_builtins (tokens : List Token) :
    (report ⟨tokens, Builtin.registry⟩).operations =
      ((run ⟨tokens, Builtin.registry⟩).invocations.filter fun call =>
        call.callee.token.text = "messageBox" ∧ call.reply.isSome).map fun call => ⟨.messageBox, call.args⟩ := by
  rw [operations_report]
  apply flatMap_eq_map_filter
  intro call made
  cases same : call.reply with
  | none => simp [Event.operations, same]
  | some reply => simp [Event.operations, same, (replies_of_mem_invocations made same).operations]

/-- With the built-in functions, each call that goes through has a value of the documented type. Only of `messageBox`
can a message say that it does not return a value. The operations of the report are those of its calls, one for
each that goes through, in this order and with two strings. -/
theorem builtins_reply (tokens : List Token) :
    let script : Script := ⟨tokens, Builtin.registry⟩
    (∀ call ∈ script.run.invocations, ∀ reply, call.reply = some reply →
        (call.callee.token.text, reply.value.map Value.type) ∈ Builtin.results) ∧
      (∀ diagnostic ∈ script.report.diagnostics, TellsVoid diagnostic.message →
        ∃ problem : Problem, problem.voidFunction? = some "messageBox" ∧ diagnostic.message = problem.message) ∧
      (script.report.operations = (script.run.invocations.filter fun call =>
        call.callee.token.text = "messageBox" ∧ call.reply.isSome).map fun call => ⟨.messageBox, call.args⟩) ∧
      ∀ operation ∈ script.report.operations, operation.id = .messageBox ∧
        ∃ title text, operation.args = [.string title, .string text] := by
  intro script
  refine ⟨?values, ?messages, operations_builtins tokens, ?strings⟩
  case values =>
    intro call made reply same
    exact (replies_of_mem_invocations made same).type
  case messages =>
    intro diagnostic member tells
    obtain ⟨finding, found, rfl⟩ := List.mem_map.mp member
    obtain ⟨function, void⟩ := finding.problem.tellsVoid_iff.mp tells
    obtain rfl := Builtin.eq_messageBox_of_voids ((script.grounded_of_mem_findings found).void function void)
    exact ⟨finding.problem, void, rfl⟩
  case strings =>
    rw [operations_builtins]
    intro operation member
    obtain ⟨call, shown, rfl⟩ := List.mem_map.mp member
    obtain ⟨made, box⟩ := List.mem_filter.mp shown
    simp only [decide_eq_true_eq] at box
    obtain ⟨reply, same⟩ := Option.isSome_iff_exists.mp box.2
    exact ⟨rfl, (replies_of_mem_invocations made same).strings box.1⟩

end Script

end ScriptCheck
