import Mathlib.Data.List.Forall2
import ScriptCheck.Native.Registry

/-! # Signatures

A call is checked before anything is run, and the first of three problems wins: its name is not registered, it has
another number of arguments than the function has parameters, or some argument is of a type that its parameter does
not accept, the leftmost of which is told (`Registry.Refuses`). A refused call leaves the world as it is. Any other
call runs the body of its function once, on the arguments as they are given (`Registry.call_checked`).
-/

namespace ScriptCheck

namespace Native

variable {native : Native} {parameters : List Parameter} {args : List Value}

/-- There is one argument for each parameter, of a type that the parameter accepts. -/
def Fits (native : Native) (args : List Value) : Prop :=
  List.Forall₂ (fun parameter arg => parameter.accepts arg.type = true) native.parameters args

/-- The argument at `i` is the leftmost one of a type that its parameter does not accept. -/
structure Mismatch (parameters : List Parameter) (args : List Value) (i : Nat) (parameter : Parameter)
    (type : ValueType) : Prop where
  expected : parameters[i]? = some parameter
  got : args[i]?.map Value.type = some type
  refused : parameter.accepts type = false
  leftmost : ∀ j other arg, j < i → parameters[j]? = some other → args[j]? = some arg →
    other.accepts arg.type = true

/-! ### Arguments and parameters -/

/-- No argument is of a type that its parameter does not accept. -/
theorem mismatch?_eq_none_iff (position : Nat) (same : args.length = parameters.length) :
    mismatch? position parameters args = none ↔
      List.Forall₂ (fun parameter arg => parameter.accepts arg.type = true) parameters args := by
  induction parameters generalizing position args with
  | nil =>
    obtain rfl := List.eq_nil_of_length_eq_zero same
    simp [mismatch?]
  | cons parameter parameters ih =>
    obtain ⟨arg, args, rfl⟩ := List.exists_cons_of_length_eq_add_one same
    rw [mismatch?, List.forall₂_cons]
    split
    · rename_i accepted
      rw [ih _ (by simpa using same), accepted]
      simp
    · rename_i refused
      simp [refused]

private theorem mismatch_cons_iff {parameter expected : Parameter} {arg : Value} {type : ValueType}
    (accepted : parameter.accepts arg.type = true) {i : Nat} :
    Mismatch (parameter :: parameters) (arg :: args) i expected type ↔
      ∃ k, i = k + 1 ∧ Mismatch parameters args k expected type := by
  constructor
  · intro mismatch
    cases i with
    | zero =>
      obtain rfl : parameter = expected := by simpa using mismatch.expected
      obtain rfl : arg.type = type := by simpa using mismatch.got
      exact absurd accepted (by simp [mismatch.refused])
    | succ k =>
      refine ⟨k, rfl, ⟨mismatch.expected, mismatch.got, mismatch.refused, ?_⟩⟩
      intro j other given before here there
      exact mismatch.leftmost (j + 1) other given (by omega) here there
  · rintro ⟨k, rfl, mismatch⟩
    refine ⟨mismatch.expected, mismatch.got, mismatch.refused, ?_⟩
    intro j other given before here there
    cases j with
    | zero =>
      obtain rfl : parameter = other := by simpa using here
      obtain rfl : arg = given := by simpa using there
      exact accepted
    | succ j => exact mismatch.leftmost j other given (by omega) here there

/-- The search from the left finds the leftmost mismatch, and counts positions from `position`. -/
theorem mismatch?_eq_some_iff {position found : Nat} {expected : Parameter} {got : ValueType} :
    mismatch? position parameters args = some (found, expected, got) ↔
      ∃ i, found = position + i ∧ Mismatch parameters args i expected got := by
  induction parameters generalizing position args with
  | nil =>
    refine iff_of_false (by simp [mismatch?]) ?_
    rintro ⟨i, _, mismatch⟩
    simpa using mismatch.expected
  | cons parameter parameters ih =>
    cases args with
    | nil =>
      refine iff_of_false (by simp [mismatch?]) ?_
      rintro ⟨i, _, mismatch⟩
      simpa using mismatch.got
    | cons arg args =>
      rw [mismatch?]
      split
      · rename_i accepted
        simp only [ih, mismatch_cons_iff accepted]
        constructor
        · rintro ⟨k, rfl, mismatch⟩
          exact ⟨k + 1, by omega, k, rfl, mismatch⟩
        · rintro ⟨_, rfl, k, rfl, mismatch⟩
          exact ⟨k, by omega, mismatch⟩
      · rename_i refused
        constructor
        · rintro ⟨⟩
          exact ⟨0, rfl, ⟨rfl, rfl, by simpa using refused, nofun⟩⟩
        · rintro ⟨i, rfl, mismatch⟩
          -- No mismatch stands further right, since the first argument is one.
          obtain rfl : i = 0 := by
            by_contra later
            exact refused (mismatch.leftmost 0 parameter arg (by omega) rfl rfl)
          obtain rfl : parameter = expected := by simpa using mismatch.expected
          obtain rfl : arg.type = got := by simpa using mismatch.got
          rfl

/-- Arguments fit a signature exactly where there is one for each parameter, of a type that it accepts. -/
theorem check_eq_ok_iff : native.check args = .ok () ↔ native.Fits args := by
  unfold check Fits
  by_cases same : args.length = native.parameters.length
  · rw [if_neg (not_not_intro same), ← mismatch?_eq_none_iff 1 same]
    cases mismatch? 1 native.parameters args <;> simp
  · rw [if_pos same]
    refine iff_of_false (by simp) fun fits => same fits.length_eq.symm

/-- With the right number of arguments, the leftmost mismatch is told. -/
theorem check_eq_error_iff_of_length (same : args.length = native.parameters.length) {error : CallError} :
    native.check args = .error error ↔ ∃ i parameter type,
      Mismatch native.parameters args i parameter type ∧ error = .type native.name (i + 1) parameter type := by
  unfold check
  rw [if_neg (not_not_intro same)]
  split
  · rename_i position parameter type first
    obtain ⟨i, rfl, mismatch⟩ := mismatch?_eq_some_iff.mp first
    constructor
    · rintro ⟨⟩
      exact ⟨i, parameter, type, mismatch, by rw [Nat.add_comm]⟩
    · rintro ⟨k, _, _, other, rfl⟩
      have here := first.symm.trans (mismatch?_eq_some_iff.mpr ⟨k, rfl, other⟩)
      simp only [Option.some.injEq, Prod.mk.injEq, Nat.add_left_cancel_iff] at here
      obtain ⟨rfl, rfl, rfl⟩ := here
      rw [Nat.add_comm]
  · rename_i none
    refine iff_of_false (by simp) ?_
    rintro ⟨i, _, _, mismatch, _⟩
    obtain ⟨⟩ := none.symm.trans (mismatch?_eq_some_iff.mpr ⟨i, rfl, mismatch⟩)

/-- The number of arguments is told before their types. -/
theorem check_eq_error_iff {error : CallError} : native.check args = .error error ↔
    (args.length ≠ native.parameters.length ∧
        error = .arity native.name native.parameters.length args.length) ∨
      (args.length = native.parameters.length ∧ ∃ i parameter type,
        Mismatch native.parameters args i parameter type ∧ error = .type native.name (i + 1) parameter type) := by
  by_cases same : args.length = native.parameters.length
  · simp [same, check_eq_error_iff_of_length same]
  · simp [same, check, eq_comm]

/-- The body of a function as it acts on the operations recorded so far. -/
def record (native : Native) (args : List Value) (operations : List Operation) :
    Option Value × List Operation :=
  ((native.body args).value, operations ++ (native.body args).operations)

end Native

namespace Registry

variable {registry : Registry} {name : String} {args : List Value}

/-- Why a call of the function `name` is refused. The number of arguments counts before their types. -/
inductive Refuses (registry : Registry) (name : String) (args : List Value) : CallError → Prop
  /-- No function bears the name. -/
  | unknown (missing : ∀ native ∈ registry.natives, native.name ≠ name) :
      Refuses registry name args (.unknown name)
  | arity {native : Native} (found : registry.find? name = some native)
      (differs : args.length ≠ native.parameters.length) :
      Refuses registry name args (.arity name native.parameters.length args.length)
  /-- Positions are told from one. -/
  | type {native : Native} {i : Nat} {parameter : Parameter} {type : ValueType}
      (found : registry.find? name = some native) (same : args.length = native.parameters.length)
      (mismatch : Native.Mismatch native.parameters args i parameter type) :
      Refuses registry name args (.type name (i + 1) parameter type)

/-- A call in a world that the functions of the host act on. What the body of a function does there, and what it
returns, is told by `execute`. -/
def callIn {World : Type} (registry : Registry) (execute : Native → List Value → World → Option Value × World)
    (name : String) (args : List Value) (world : World) : Except CallError (Option Value) × World :=
  match registry.find? name with
  | none => (.error (.unknown name), world)
  | some native =>
    match native.check args with
    | .error error => (.error error, world)
    | .ok _ =>
      let (value, after) := execute native args world
      (.ok value, after)

/-! ### Which calls are refused -/

private theorem find?_eq_none_iff : registry.find? name = none ↔ ∀ native ∈ registry.natives, native.name ≠ name := by
  simp [find?, List.find?_eq_none]

theorem name_of_find? {native : Native} (found : registry.find? name = some native) : native.name = name := by
  simpa using List.find?_some found

/-- The refusals of a call of a registered function are those of its signature. -/
theorem refuses_iff_check {native : Native} (found : registry.find? name = some native) {error : CallError} :
    registry.Refuses name args error ↔ native.check args = .error error := by
  obtain rfl := name_of_find? found
  rw [Native.check_eq_error_iff]
  constructor
  · rintro (missing | ⟨other, differs⟩ | ⟨other, same, mismatch⟩)
    · exact absurd (find?_eq_none_iff.mpr missing) (by simp [found])
    · obtain rfl := Option.some.inj (found.symm.trans other)
      exact .inl ⟨differs, rfl⟩
    · obtain rfl := Option.some.inj (found.symm.trans other)
      exact .inr ⟨same, _, _, _, mismatch, rfl⟩
  · rintro (⟨differs, rfl⟩ | ⟨same, i, parameter, type, mismatch, rfl⟩)
    · exact .arity found differs
    · exact .type found same mismatch

/-- Without a function of the name there is one refusal. -/
theorem refuses_iff_of_missing (missing : registry.find? name = none) {error : CallError} :
    registry.Refuses name args error ↔ error = .unknown name := by
  constructor
  · rintro (_ | ⟨found, _⟩ | ⟨found, _, _⟩)
    · rfl
    · exact absurd found (by simp [missing])
    · exact absurd found (by simp [missing])
  · rintro rfl
    exact .unknown (find?_eq_none_iff.mp missing)

/-! ### What a call does -/

private theorem call_eq_error_iff {error : CallError} :
    registry.call name args = .error error ↔ registry.Refuses name args error := by
  unfold call
  cases found : registry.find? name with
  | none => simp [refuses_iff_of_missing found, eq_comm]
  | some native =>
    rw [refuses_iff_check found]
    cases verdict : native.check args <;> simp [Native.call, verdict]

/-- A call that goes through has run the body of the function on arguments that fit its signature. -/
theorem call_eq_ok_iff {reply : Reply} : registry.call name args = .ok reply ↔
    ∃ native, registry.find? name = some native ∧ native.Fits args ∧ reply = native.body args := by
  unfold call Native.call
  cases registry.find? name with
  | none => simp
  | some native =>
    cases accepted : native.check args <;> simp [← Native.check_eq_ok_iff, accepted, eq_comm]

section World

variable {World : Type} {execute : Native → List Value → World → Option Value × World} {world : World}

/-- A refused call leaves the world as it is. -/
theorem callIn_eq_error_iff {error : CallError} :
    registry.callIn execute name args world = (.error error, world) ↔ registry.Refuses name args error := by
  unfold callIn
  cases found : registry.find? name with
  | none => simp [refuses_iff_of_missing found, eq_comm]
  | some native =>
    rw [refuses_iff_check found]
    cases verdict : native.check args <;> simp [verdict]

/-- A call that is not refused is one run of the body. -/
theorem callIn_of_fits {native : Native} (found : registry.find? name = some native) (fits : native.Fits args) :
    registry.callIn execute name args world =
      (.ok (execute native args world).1, (execute native args world).2) := by
  simp [callIn, found, Native.check_eq_ok_iff.mpr fits]

end World

/-- Where the world is the list of the operations recorded so far, a call answers as it does without one, and its
operations are added at the end. -/
theorem callIn_record (operations : List Operation) :
    registry.callIn Native.record name args operations =
      match registry.call name args with
      | .error error => (.error error, operations)
      | .ok reply => (.ok reply.value, operations ++ reply.operations) := by
  unfold callIn call
  cases registry.find? name with
  | none => rfl
  | some native => cases verdict : native.check args <;> simp [Native.call, Native.record, verdict]

/-- A call returns an error exactly where it is refused: for a name that no function bears, else for a wrong number
of arguments, else for the leftmost argument of a wrong type. It goes through for all other arguments, and gives the
reply of the body to them. Whatever the bodies do, in whatever world, no refused call runs one, and any other call runs
that of its function once. -/
theorem call_checked (registry : Registry) (name : String) (args : List Value) :
    (∀ error, registry.call name args = .error error ↔ registry.Refuses name args error) ∧
      (∀ reply, registry.call name args = .ok reply ↔
        ∃ native, registry.find? name = some native ∧ native.Fits args ∧ reply = native.body args) ∧
      (∀ (World : Type) (execute : Native → List Value → World → Option Value × World) (world : World),
        (∀ error, registry.callIn execute name args world = (.error error, world) ↔
            registry.Refuses name args error) ∧
          ∀ native, registry.find? name = some native → native.Fits args →
            registry.callIn execute name args world =
              (.ok (execute native args world).1, (execute native args world).2)) ∧
      ∀ operations, registry.callIn Native.record name args operations =
        match registry.call name args with
        | .error error => (.error error, operations)
        | .ok reply => (.ok reply.value, operations ++ reply.operations) := by
  refine ⟨fun _ => call_eq_error_iff, fun _ => call_eq_ok_iff, ?_, callIn_record⟩
  intro World execute world
  exact ⟨fun _ => callIn_eq_error_iff, fun _ => callIn_of_fits⟩

/-- Of two arguments of wrong types the first is told, and nothing is run. With right ones the body is run once. -/
theorem call_checked_pair :
    let pair : Native := ⟨"pair", [.string, .int, .int, .any], fun _ => ⟨none, []⟩⟩
    let registry : Registry := ⟨[pair]⟩
    let bad : List Value := [.string "a", .string "b", .string "c", .int 1]
    let good : List Value := [.string "a", .int 2, .int 3, .int 1]
    let count := fun (_ : Native) (args : List Value) (runs : List (List Value)) =>
      ((none : Option Value), runs ++ [args])
    registry.call "pair" bad = .error (.type "pair" 2 .int .string) ∧
      registry.callIn count "pair" bad [] = (.error (.type "pair" 2 .int .string), []) ∧
      registry.callIn count "pair" good [] = (.ok none, [good]) := by
  intro pair registry bad good count
  have refused : registry.Refuses "pair" bad (.type "pair" 2 .int .string) :=
    .type (i := 1) rfl rfl ⟨rfl, rfl, rfl, by
      intro j other arg before here there
      obtain rfl : j = 0 := by omega
      obtain ⟨⟩ := here
      obtain ⟨⟩ := there
      rfl⟩
  have fits : pair.Fits good := Native.check_eq_ok_iff.mp rfl
  obtain ⟨errors, _, worlds, _⟩ := call_checked registry "pair" bad
  obtain ⟨_, _, others, _⟩ := call_checked registry "pair" good
  exact ⟨(errors _).mpr refused, ((worlds _ count []).1 _).mpr refused, (others _ count []).2 pair rfl fits⟩

end Registry

end ScriptCheck
