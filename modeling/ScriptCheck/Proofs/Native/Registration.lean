import ScriptCheck.Failure
import ScriptCheck.Native.Builtin
import Mathlib.Data.List.Dedup
import Mathlib.Data.List.TakeWhile

/-! # Registrations

A registry answers requests one after the other (`Host.serve`), and what has been added to it is read off the answers
(`Host.added`). The first function that is registered under a name keeps it: whatever the history, a look-up finds the
first function of that name that was added (`Host.Keeps`). This rests on a few laws of a registry (`Host.Lawful`),
which hold of a list that is searched from the front and of a map from names to functions, so that the two give the
same answers (`Host.keeps_serve`).
-/

namespace ScriptCheck

/-- What a registry can do, whatever it keeps its functions in. -/
structure Host (T : Type) where
  empty : T
  find? : T → String → Option Native
  register? : T → Native → Option T
  registerAll : T → List Native → T × Option String
  call : T → String → List Value → Except CallError Reply
  size : T → Nat

def Registry.host : Host Registry where
  empty := .empty
  find? := find?
  register? := register?
  registerAll := registerAll
  call := call
  size := size

/-- A registry as a map from names to functions. -/
structure KeyedRegistry where
  functions : Std.HashMap String Native := {}

namespace KeyedRegistry

/-- Adds a function under its name, which must be free. -/
def register? (keyed : KeyedRegistry) (native : Native) : Option KeyedRegistry :=
  if keyed.functions.contains native.name then none
  else some { functions := keyed.functions.insert native.name native }

def registerAll (keyed : KeyedRegistry) : List Native → KeyedRegistry × Option String
  | [] => (keyed, none)
  | native :: rest =>
    match keyed.register? native with
    | none => (keyed, some native.name)
    | some larger => larger.registerAll rest

def call (keyed : KeyedRegistry) (name : String) (args : List Value) : Except CallError Reply :=
  match keyed.functions[name]? with
  | none => .error (.unknown name)
  | some native => native.call args

def host : Host KeyedRegistry where
  empty := {}
  find? keyed name := keyed.functions[name]?
  register? := register?
  registerAll := registerAll
  call := call
  size keyed := keyed.functions.size

end KeyedRegistry

namespace Host

inductive Request where
  | register (native : Native)
  | builtins
  | call (name : String) (args : List Value)
  | lookup (name : String)

inductive Answer where
  | done
  | failed (failure : Failure)
  | returned (reply : Except CallError Reply)
  | found (native : Option Native)

/-- The functions that a request has added, as far as its answer tells. -/
def Request.added : Request → Answer → List Native
  | .register native, .done => [native]
  | .builtins, .done => Builtin.all
  | .builtins, .failed (.duplicateNative name) => Builtin.all.takeWhile fun native => native.name ≠ name
  | _, _ => []

/-- The functions that some requests have added, the oldest first. -/
def added (requests : List Request) (answers : List Answer) : List Native :=
  (List.zipWith Request.added requests answers).flatten

variable {T U : Type}

def answer (host : Host T) (t : T) : Request → T × Answer
  | .register native =>
    match host.register? t native with
    | none => (t, .failed (.duplicateNative native.name))
    | some larger => (larger, .done)
  | .builtins =>
    match host.registerAll t Builtin.all with
    | (larger, none) => (larger, .done)
    | (larger, some name) => (larger, .failed (.duplicateNative name))
  | .call name args => (t, .returned (host.call t name args))
  | .lookup name => (t, .found (host.find? t name))

def serve (host : Host T) (t : T) : List Request → T × List Answer
  | [] => (t, [])
  | request :: rest =>
    let first := host.answer t request
    let others := host.serve first.1 rest
    (others.1, first.2 :: others.2)

/-- What is relied on of a registry. -/
structure Lawful (host : Host T) : Prop where
  find?_empty : ∀ name, host.find? host.empty name = none
  size_empty : host.size host.empty = 0
  register?_eq_none_iff : ∀ t native, host.register? t native = none ↔ (host.find? t native.name).isSome
  find?_register? : ∀ {t native larger}, host.register? t native = some larger →
    ∀ name, host.find? larger name = if native.name = name then some native else host.find? t name
  size_register? : ∀ {t native larger}, host.register? t native = some larger → host.size larger = host.size t + 1
  registerAll_nil : ∀ t, host.registerAll t [] = (t, none)
  registerAll_cons : ∀ t native rest, host.registerAll t (native :: rest) =
    match host.register? t native with
    | none => (t, some native.name)
    | some larger => host.registerAll larger rest
  call_eq : ∀ t name args, host.call t name args =
    match host.find? t name with
    | none => .error (.unknown name)
    | some native => native.call args

/-- The larger registry finds these functions too, where it found none before. -/
structure Adds (host : Host T) (t : T) (natives : List Native) (larger : T) : Prop where
  find? : ∀ name, host.find? larger name = (host.find? t name).or (natives.find? (·.name == name))
  size : host.size larger = host.size t + natives.length

end Host

/-! ### The two registries -/

private theorem Registry.register?_eq_some_iff {registry larger : Registry} {native : Native} :
    registry.register? native = some larger ↔
      registry.find? native.name = none ∧ larger = ⟨registry.natives ++ [native]⟩ := by
  rw [register?, has]
  cases registry.find? native.name <;> simp [eq_comm]

private theorem Registry.lawful_host : Registry.host.Lawful where
  find?_empty _ := rfl
  size_empty := rfl
  register?_eq_none_iff registry native := by
    change registry.register? native = none ↔ (registry.find? native.name).isSome = true
    rw [register?, has]
    cases registry.find? native.name <;> simp
  find?_register? := by
    intro registry native larger registered name
    obtain ⟨fresh, rfl⟩ := register?_eq_some_iff.mp registered
    change (registry.natives ++ [native]).find? (·.name == name) = if _ then _ else registry.find? name
    rw [List.find?_append]
    by_cases same : native.name = name
    · subst same
      simp [show registry.natives.find? (·.name == native.name) = none from fresh]
    · simp [same, find?]
  size_register? := by
    intro registry native larger registered
    obtain ⟨_, rfl⟩ := register?_eq_some_iff.mp registered
    exact List.length_append
  registerAll_nil _ := rfl
  registerAll_cons registry native rest := by
    cases registered : registry.register? native <;> simp [Registry.host, registerAll, registered]
  call_eq _ _ _ := rfl

private theorem KeyedRegistry.register?_eq_some_iff {keyed larger : KeyedRegistry} {native : Native} :
    keyed.register? native = some larger ↔
      native.name ∉ keyed.functions ∧ larger = ⟨keyed.functions.insert native.name native⟩ := by
  rw [register?, ← Std.HashMap.contains_iff_mem]
  cases keyed.functions.contains native.name <;> simp [eq_comm]

private theorem KeyedRegistry.lawful_host : KeyedRegistry.host.Lawful where
  find?_empty _ := Std.HashMap.getElem?_empty
  size_empty := rfl
  register?_eq_none_iff keyed native := by
    change keyed.register? native = none ↔ keyed.functions[native.name]?.isSome = true
    rw [register?, Std.HashMap.isSome_getElem?_eq_contains]
    cases keyed.functions.contains native.name <;> simp
  find?_register? := by
    intro keyed native larger registered name
    obtain ⟨_, rfl⟩ := register?_eq_some_iff.mp registered
    change (keyed.functions.insert native.name native)[name]? = _
    rw [Std.HashMap.getElem?_insert]
    simp [KeyedRegistry.host]
  size_register? := by
    intro keyed native larger registered
    obtain ⟨fresh, rfl⟩ := register?_eq_some_iff.mp registered
    exact Std.HashMap.size_insert.trans (if_neg fresh)
  registerAll_nil _ := rfl
  registerAll_cons keyed native rest := by
    cases registered : keyed.register? native <;> simp [KeyedRegistry.host, registerAll, registered]
  call_eq keyed name args := rfl

namespace Host

variable {T U : Type} {host : Host T} {t : T}

/-! ### One registration and several -/

private theorem register?_taken (lawful : host.Lawful) {native : Native} (taken : (host.find? t native.name).isSome) :
    host.register? t native = none := (lawful.register?_eq_none_iff t native).mpr taken

private theorem register?_free (lawful : host.Lawful) {native : Native} (free : host.find? t native.name = none) :
    ∃ larger, host.register? t native = some larger ∧ host.Adds t [native] larger := by
  have accepted : host.register? t native ≠ none := by
    rw [ne_eq, lawful.register?_eq_none_iff, free]
    simp
  obtain ⟨larger, registered⟩ := Option.ne_none_iff_exists'.mp accepted
  refine ⟨larger, registered, fun name => ?_, lawful.size_register? registered⟩
  rw [lawful.find?_register? registered]
  by_cases own : native.name = name
  · subst own
    simp [free]
  · simp [own]

/-- Functions with different names are added up to the first whose name is taken. -/
theorem registerAll_added (lawful : host.Lawful) {natives : List Native} (taken : String → Bool)
    (distinct : (natives.map Native.name).Nodup)
    (known : ∀ native ∈ natives, (host.find? t native.name).isSome = taken native.name) :
    (host.registerAll t natives).2 = (natives.find? fun native => taken native.name).map Native.name ∧
      host.Adds t (natives.takeWhile fun native => !taken native.name) (host.registerAll t natives).1 := by
  induction natives generalizing t with
  | nil => simpa [lawful.registerAll_nil] using ⟨by simp, rfl⟩
  | cons native rest ih =>
    obtain ⟨fresh, apart⟩ := List.nodup_cons.mp distinct
    obtain ⟨here, others⟩ := List.forall_mem_cons.mp known
    cases status : taken native.name with
    | true =>
      rw [lawful.registerAll_cons, register?_taken lawful (here.trans status),
        List.find?_cons_of_pos (by simpa using status), List.takeWhile_cons_of_neg (by simp [status])]
      exact ⟨rfl, by simp, rfl⟩
    | false =>
      have free : host.find? t native.name = none := by simpa [status] using here
      obtain ⟨larger, registered, first⟩ := register?_free lawful free
      -- The names of the others mean the same before and behind this registration.
      have same : ∀ other ∈ rest, (host.find? larger other.name).isSome = taken other.name := by
        intro other member
        have different : native.name ≠ other.name := by
          intro equal
          rw [equal] at fresh
          exact fresh (List.mem_map_of_mem member)
        rw [lawful.find?_register? registered, if_neg different, others other member]
      obtain ⟨stops, later⟩ := ih apart same
      rw [lawful.registerAll_cons, registered, List.find?_cons_of_neg (by simpa using status),
        List.takeWhile_cons_of_pos (by simp [status])]
      refine ⟨stops, fun name => ?_, ?_⟩
      · rw [later.find?, first.find?, Option.or_assoc, ← List.find?_append]
        rfl
      · rw [later.size, first.size]
        simp only [List.length_cons, List.length_nil]
        omega

private theorem distinct_builtins : (Builtin.all.map Native.name).Nodup := by decide

/-- Where the names of the built-in functions are free, all of them are registered. -/
theorem answer_builtins (lawful : host.Lawful) (free : ∀ native ∈ Builtin.all, host.find? t native.name = none) :
    ∃ larger, host.answer t .builtins = (larger, .done) ∧ host.Adds t Builtin.all larger := by
  obtain ⟨stops, adds⟩ := registerAll_added (t := t) lawful (fun _ => false) distinct_builtins
    fun native member => by simp [free native member]
  rw [List.takeWhile_eq_self_iff.mpr (by simp)] at adds
  refine ⟨_, ?_, adds⟩
  rw [answer, ← Prod.eta (host.registerAll t Builtin.all), stops, List.find?_eq_none.mpr (by simp), Option.map_none]

/-- The first built-in function whose name is taken is refused, and those before it are registered. -/
theorem answer_builtins_taken (lawful : host.Lawful) {front back : List Native} {next : Native}
    (split : Builtin.all = front ++ next :: back) (free : ∀ other ∈ front, host.find? t other.name = none)
    (taken : (host.find? t next.name).isSome) :
    ∃ larger, host.answer t .builtins = (larger, .failed (.duplicateNative next.name)) ∧
      host.Adds t front larger := by
  obtain ⟨stops, adds⟩ := registerAll_added (t := t) lawful (fun name => (host.find? t name).isSome) distinct_builtins
    fun _ _ => rfl
  have passes : ∀ other ∈ front, (!(host.find? t other.name).isSome) = true := by
    intro other member
    simp [free other member]
  rw [split, List.takeWhile_append_of_pos passes, List.takeWhile_cons_of_neg (by simp [taken]), List.append_nil,
    ← split] at adds
  refine ⟨_, ?_, adds⟩
  have first : (Builtin.all.find? fun native => (host.find? t native.name).isSome) = some next :=
    List.find?_eq_some_iff_append.mpr ⟨taken, front, back, split, passes⟩
  rw [answer, ← Prod.eta (host.registerAll t Builtin.all), stops, first, Option.map_some]

/-- Either all names of the built-in functions are free, or there is a first one that is taken. -/
theorem builtins_free_or_taken (host : Host T) (t : T) :
    (∀ native ∈ Builtin.all, host.find? t native.name = none) ∨
      ∃ front next back, Builtin.all = front ++ next :: back ∧
        (∀ other ∈ front, host.find? t other.name = none) ∧ (host.find? t next.name).isSome := by
  cases first : Builtin.all.find? fun native => (host.find? t native.name).isSome with
  | none => exact .inl (by simpa using first)
  | some next =>
    obtain ⟨taken, front, back, split, free⟩ := List.find?_eq_some_iff_append.mp first
    exact .inr ⟨front, next, back, split, by simpa using free, taken⟩

/-! ### A history of requests -/

/-- The registry holds these functions under their names. -/
structure Holds (host : Host T) (t : T) (natives : List Native) : Prop where
  find? : ∀ name, host.find? t name = natives.find? (·.name == name)
  size : host.size t = natives.length
  distinct : (natives.map Native.name).Nodup

private theorem Holds.append {natives more : List Native} {larger : T} (holds : host.Holds t natives)
    (adds : host.Adds t more larger) (free : ∀ native ∈ more, host.find? t native.name = none)
    (distinct : (more.map Native.name).Nodup) : host.Holds larger (natives ++ more) where
  find? name := by rw [adds.find?, holds.find?, List.find?_append]
  size := by rw [adds.size, holds.size, List.length_append]
  distinct := by
    rw [List.map_append, List.nodup_append]
    refine ⟨holds.distinct, distinct, ?_⟩
    rintro name old other new rfl
    obtain ⟨native, member, rfl⟩ := List.mem_map.mp new
    obtain ⟨holder, present, same⟩ := List.mem_map.mp old
    have none := free native member
    rw [holds.find?, List.find?_eq_none] at none
    exact none holder present (by simpa using same)

/-- The functions before the one of a name, where names are unique. -/
private theorem takeWhile_ne_name {front back : List Native} {next : Native}
    (distinct : ((front ++ next :: back).map Native.name).Nodup) :
    ((front ++ next :: back).takeWhile fun other => other.name ≠ next.name) = front := by
  have apart : ∀ other ∈ front, other.name ≠ next.name := by
    intro other member same
    rw [List.map_append, List.nodup_append] at distinct
    exact distinct.2.2 _ (List.mem_map_of_mem member) _ (List.mem_map_of_mem (List.mem_cons_self ..)) same
  rw [List.takeWhile_append_of_pos (by simpa using apart), List.takeWhile_cons_of_neg (by simp), List.append_nil]

/-- A request adds the functions that its answer tells of. -/
theorem Holds.answer (lawful : host.Lawful) {natives : List Native} (holds : host.Holds t natives)
    (request : Request) :
    host.Holds (host.answer t request).1 (natives ++ request.added (host.answer t request).2) := by
  cases request with
  | call name args | lookup name => simpa [Host.answer, Request.added] using holds
  | register native =>
    cases present : host.find? t native.name with
    | some holder =>
      rw [Host.answer, register?_taken lawful (by simp [present])]
      simpa [Request.added] using holds
    | none =>
      obtain ⟨larger, registered, adds⟩ := register?_free lawful present
      rw [Host.answer, registered]
      change host.Holds larger (natives ++ [native])
      exact holds.append adds (by simpa using present) (List.nodup_singleton _)
  | builtins =>
    rcases builtins_free_or_taken host t with free | ⟨front, next, back, split, free, taken⟩
    · obtain ⟨larger, answers, adds⟩ := answer_builtins lawful free
      rw [answers]
      exact holds.append adds free distinct_builtins
    · obtain ⟨larger, answers, adds⟩ := answer_builtins_taken lawful split free taken
      have distinct := distinct_builtins
      rw [split] at distinct
      rw [answers, Request.added, split, takeWhile_ne_name distinct]
      exact holds.append adds free (distinct.sublist ((List.sublist_append_left ..).map _))

private theorem Holds.serve (lawful : host.Lawful) {natives : List Native} (holds : host.Holds t natives)
    (requests : List Request) :
    host.Holds (host.serve t requests).1 (natives ++ added requests (host.serve t requests).2) := by
  induction requests generalizing t natives with
  | nil => simpa [Host.serve, added] using holds
  | cons request rest ih =>
    have later := ih (holds.answer lawful request)
    rwa [List.append_assoc] at later

/-- What is promised of a registry to which these functions have been added, one after the other. -/
structure Keeps (host : Host T) (t : T) (natives : List Native) : Prop where
  /-- The first function of a name is found, and it bears that name. -/
  lookup : ∀ name, host.find? t name = natives.find? (·.name == name)
  named : ∀ name native, host.find? t name = some native → native.name = name
  size : host.size t = (natives.map Native.name).dedup.length
  refuses : ∀ native, (host.find? t native.name).isSome →
    host.answer t (.register native) = (t, .failed (.duplicateNative native.name))
  registers : ∀ native, host.find? t native.name = none →
    ∃ larger, host.answer t (.register native) = (larger, .done) ∧ host.Adds t [native] larger
  /-- All built-in functions are registered, or those before the first whose name is taken. -/
  builtins : (∀ native ∈ Builtin.all, host.find? t native.name = none) →
    ∃ larger, host.answer t .builtins = (larger, .done) ∧ host.Adds t Builtin.all larger
  builtins_taken : ∀ front next back, Builtin.all = front ++ next :: back →
    (∀ other ∈ front, host.find? t other.name = none) → (host.find? t next.name).isSome →
    ∃ larger, host.answer t .builtins = (larger, .failed (.duplicateNative next.name)) ∧
      host.Adds t front larger
  /-- Calls and look-ups change nothing. -/
  reads : (∀ name args, (host.answer t (.call name args)).1 = t) ∧ ∀ name, (host.answer t (.lookup name)).1 = t

private theorem Holds.keeps (lawful : host.Lawful) {natives : List Native} (holds : host.Holds t natives) :
    host.Keeps t natives where
  lookup := holds.find?
  named name native found := by
    rw [holds.find?] at found
    simpa using List.find?_some found
  size := by rw [holds.size, List.dedup_eq_self.mpr holds.distinct, List.length_map]
  refuses native taken := by rw [Host.answer, register?_taken lawful taken]
  registers native free := by
    obtain ⟨larger, registered, adds⟩ := register?_free lawful free
    exact ⟨larger, by rw [Host.answer, registered], adds⟩
  builtins := answer_builtins lawful
  builtins_taken _ _ _ := answer_builtins_taken lawful
  reads := ⟨fun _ _ => rfl, fun _ => rfl⟩

private theorem Holds.empty (lawful : host.Lawful) : host.Holds host.empty [] where
  find? := lawful.find?_empty
  size := lawful.size_empty
  distinct := List.nodup_nil

variable {other : Host U} {u : U}

/-- Registries that find the same functions give the same answer, and find the same functions behind it. -/
theorem answer_congr (lawful : host.Lawful) (alike : other.Lawful)
    (same : ∀ name, host.find? t name = other.find? u name) (request : Request) :
    (host.answer t request).2 = (other.answer u request).2 ∧
      ∀ name, host.find? (host.answer t request).1 name = other.find? (other.answer u request).1 name := by
  cases request with
  | call name args =>
    refine ⟨?_, same⟩
    rw [answer, answer, lawful.call_eq, alike.call_eq, same]
  | lookup name => exact ⟨congrArg Answer.found (same name), same⟩
  | register native =>
    cases present : host.find? t native.name with
    | some holder =>
      rw [answer, answer, register?_taken lawful (by simp [present]), register?_taken alike (by simp [← same, present])]
      exact ⟨rfl, same⟩
    | none =>
      obtain ⟨_, registered, adds⟩ := register?_free lawful present
      obtain ⟨_, again, addsAgain⟩ := register?_free alike ((same native.name).symm.trans present)
      rw [answer, answer, registered, again]
      exact ⟨rfl, fun name => by rw [adds.find?, addsAgain.find?, same]⟩
  | builtins =>
    rcases builtins_free_or_taken host t with free | ⟨front, next, back, split, free, taken⟩
    · obtain ⟨_, answers, adds⟩ := answer_builtins lawful free
      obtain ⟨_, again, addsAgain⟩ := answer_builtins (t := u) alike (by simpa only [same] using free)
      rw [answers, again]
      exact ⟨rfl, fun name => by rw [adds.find?, addsAgain.find?, same]⟩
    · obtain ⟨_, answers, adds⟩ := answer_builtins_taken lawful split free taken
      obtain ⟨_, again, addsAgain⟩ :=
        answer_builtins_taken (t := u) alike split (by simpa only [same] using free) (by rwa [← same])
      rw [answers, again]
      exact ⟨rfl, fun name => by rw [adds.find?, addsAgain.find?, same]⟩

private theorem serve_congr (lawful : host.Lawful) (alike : other.Lawful)
    (same : ∀ name, host.find? t name = other.find? u name) (requests : List Request) :
    (host.serve t requests).2 = (other.serve u requests).2 := by
  induction requests generalizing t u with
  | nil => rfl
  | cons request rest ih =>
    obtain ⟨first, later⟩ := answer_congr lawful alike same request
    simp only [serve, first, ih later]

/-- Whatever has been asked of an empty registry, the first function that was added under a name is found under it and
bears it, and the registry counts as many functions as names were added. A name that is taken is refused and nothing
changes; all built-in functions are registered, or those before the first whose name is taken, which is then named.
Calls change nothing. A list that is searched from the front and a map from names to functions give the same answers. -/
theorem keeps_serve (history : List Request) :
    let registry := Registry.host.serve .empty history
    let keyed := KeyedRegistry.host.serve {} history
    let natives := added history registry.2
    keyed.2 = registry.2 ∧ Registry.host.Keeps registry.1 natives ∧ KeyedRegistry.host.Keeps keyed.1 natives := by
  intro registry keyed natives
  have same : keyed.2 = registry.2 :=
    serve_congr KeyedRegistry.lawful_host Registry.lawful_host
      (fun name => KeyedRegistry.lawful_host.find?_empty name) history
  refine ⟨same, ?_, ?_⟩
  · exact ((Holds.empty Registry.lawful_host).serve Registry.lawful_host history).keeps Registry.lawful_host
  · have holds := (Holds.empty KeyedRegistry.lawful_host).serve KeyedRegistry.lawful_host history
    rw [show (KeyedRegistry.host.serve KeyedRegistry.host.empty history).2 = registry.2 from same] at holds
    exact holds.keeps KeyedRegistry.lawful_host

/-- The name of the fifth built-in function is taken, so the sixth is not registered either. -/
example : ((Registry.host.serve .empty [.register ⟨"size", [], fun _ => ⟨none, []⟩⟩, .builtins]).1.natives.map
    Native.name) = ["size", "squareroot", "power", "messageBox", "substring"] := by decide

end Host

end ScriptCheck
