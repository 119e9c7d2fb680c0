import ScriptCheck.Report
import ScriptCheck.Proofs.Table.Changes
import Mathlib.Data.List.Find
import Mathlib.Data.List.Nodup

/-! # Tables by interned names

A table can find its variables through keys: an interner gives each name a key, an index leads from the key to a slot,
and the slots hold the variables in the order of their declarations (`InternedTable`). Whatever is asked of such a
table, its answers are those of a list of pairs of a name and a variable that is searched from the front, and so are
those of a plain list of variables (`SymbolStore.serve_eq_entries`). This rests on each name leading to the slot of its
pair and to no other (`InternedTable.Indexes`), which declarations and changes keep.
-/

namespace ScriptCheck

/-- What can be done with a table of variables, whatever it keeps them in. -/
structure SymbolStore (T : Type) where
  empty : T
  has : T → String → Bool
  find? : T → String → Option Symbol
  declare? : T → String → ValueType → Scope → Option T
  change : T → String → (Symbol → Symbol) → T
  size : T → Nat
  symbols : T → List Symbol

def Table.store : SymbolStore Table where
  empty := .empty
  has := has
  find? := find?
  declare? := declare?
  change := change
  size := size
  symbols := symbols

/-! ### A list of pairs -/

/-- Variables with their names, the oldest first. -/
structure Entries where
  pairs : List (String × Symbol) := []

namespace Entries

def keys (entries : Entries) : List String := entries.pairs.map Prod.fst

/-- The variable of the first pair with the name. -/
def find? (entries : Entries) (name : String) : Option Symbol :=
  (entries.pairs.find? (·.1 == name)).map Prod.snd

def changeFirst (name : String) (f : Symbol → Symbol) : List (String × Symbol) → List (String × Symbol)
  | [] => []
  | pair :: rest => if pair.1 = name then (pair.1, f pair.2) :: rest else pair :: changeFirst name f rest

def store : SymbolStore Entries where
  empty := {}
  has entries name := (entries.find? name).isSome
  find? := find?
  declare? entries name type scope :=
    if (entries.find? name).isSome then none
    else some { pairs := entries.pairs ++ [(name, .declared name type scope)] }
  change entries name f := { pairs := changeFirst name f entries.pairs }
  size entries := entries.pairs.length
  symbols entries := entries.pairs.map Prod.snd

end Entries

/-! ### Interned names -/

/-- Gives names keys. -/
structure Interner (Key : Type) where
  Names : Type
  empty : Names
  key? : Names → String → Option Key
  intern : Names → String → Names × Key

/-- What is relied on of an interner: the names that have a key are those that have been interned, and no two of them
have the same one. -/
structure Interner.Lawful {Key : Type} (interner : Interner Key) : Prop where
  key?_empty : ∀ name, interner.key? interner.empty name = none
  key?_intern_self : ∀ names name,
    interner.key? (interner.intern names name).1 name = some (interner.intern names name).2
  key?_intern_ne : ∀ names {name other}, other ≠ name →
    interner.key? (interner.intern names name).1 other = interner.key? names other
  key?_inj : ∀ names {first second key}, interner.key? names first = some key →
    interner.key? names second = some key → first = second

/-- A table that finds a variable by the key of its name, in the slot that an index has for the key. -/
structure InternedTable {Key : Type} [DecidableEq Key] [Hashable Key] (interner : Interner Key) where
  names : interner.Names := interner.empty
  index : Std.HashMap Key Nat := {}
  symbols : Array Symbol := #[]

namespace InternedTable

variable {Key : Type} [DecidableEq Key] [Hashable Key] {interner : Interner Key}

def slot? (table : InternedTable interner) (name : String) : Option Nat :=
  (interner.key? table.names name).bind fun key => table.index[key]?

def find? (table : InternedTable interner) (name : String) : Option Symbol :=
  (table.slot? name).bind fun slot => table.symbols[slot]?

/-- A new name is interned, and its key is indexed to the slot behind the last one. -/
def declare? (table : InternedTable interner) (name : String) (type : ValueType) (scope : Scope) :
    Option (InternedTable interner) :=
  if (table.slot? name).isSome then none
  else
    let interned := interner.intern table.names name
    some {
      names := interned.1
      index := table.index.insert interned.2 table.symbols.size
      symbols := table.symbols.push (.declared name type scope) }

def change (table : InternedTable interner) (name : String) (f : Symbol → Symbol) : InternedTable interner :=
  match table.slot? name with
  | none => table
  | some slot => { table with symbols := table.symbols.modify slot f }

def store (interner : Interner Key) : SymbolStore (InternedTable interner) where
  empty := {}
  has table name := (table.slot? name).isSome
  find? := find?
  declare? := declare?
  change := change
  size table := table.symbols.size
  symbols table := table.symbols.toList

end InternedTable

namespace SymbolStore

inductive Request where
  | declare (name : String) (type : ValueType) (scope : Scope)
  | has (name : String)
  | find (name : String)
  | assign (name : String) (value : Value)
  | update (name : String) (value : Value)
  | size
deriving DecidableEq, Repr

inductive Answer where
  | refused (message : String)
  | known (known : Bool)
  | found (symbol : Option Symbol)
  | counted (size : Nat)
deriving DecidableEq, Repr

variable {T U : Type}

def answer (store : SymbolStore T) (t : T) : Request → T × Answer
  | .declare name type scope =>
    match store.declare? t name type scope with
    | none => (t, .refused (Problem.redeclared name).message)
    | some larger => (larger, .found (store.find? larger name))
  | .has name => (t, .known (store.has t name))
  | .find name => (t, .found (store.find? t name))
  | .assign name value =>
    let changed := store.change t name (.assign value)
    (changed, .found (store.find? changed name))
  | .update name value =>
    let changed := store.change t name (.update value)
    (changed, .found (store.find? changed name))
  | .size => (t, .counted (store.size t))

def serve (store : SymbolStore T) (t : T) : List Request → T × List Answer
  | [] => (t, [])
  | request :: rest =>
    let first := store.answer t request
    let others := store.serve first.1 rest
    (others.1, first.2 :: others.2)

/-- A table does what a list of pairs does. -/
structure Refines (store : SymbolStore T) (rel : T → Entries → Prop) : Prop where
  empty : rel store.empty Entries.store.empty
  has : ∀ {t entries}, rel t entries → ∀ name, store.has t name = Entries.store.has entries name
  find? : ∀ {t entries}, rel t entries → ∀ name, store.find? t name = Entries.store.find? entries name
  size : ∀ {t entries}, rel t entries → store.size t = Entries.store.size entries
  symbols : ∀ {t entries}, rel t entries → store.symbols t = Entries.store.symbols entries
  declare? : ∀ {t entries}, rel t entries → ∀ name type scope,
    Option.Rel rel (store.declare? t name type scope) (Entries.store.declare? entries name type scope)
  change : ∀ {t entries}, rel t entries → ∀ name {f : Symbol → Symbol}, (∀ symbol, (f symbol).name = symbol.name) →
    rel (store.change t name f) (Entries.store.change entries name f)

end SymbolStore

/-! ### Pairs -/

namespace Entries

variable {entries : Entries} {name : String} {symbol : Symbol} {f : Symbol → Symbol} {slot : Nat}

private theorem keys_append (entries : Entries) (name : String) (symbol : Symbol) :
    keys { pairs := entries.pairs ++ [(name, symbol)] } = entries.keys ++ [name] := List.map_append

private theorem getElem?_append_new {names : List String} {other : String} (fresh : name ∉ names) :
    (names ++ [name])[slot]? = some other ↔
      if other = name then slot = names.length else names[slot]? = some other := by
  rcases Nat.lt_trichotomy slot names.length with before | rfl | behind
  · rw [List.getElem?_append_left before]
    split
    · rename_i same
      subst same
      refine ⟨fun present => absurd (List.mem_of_getElem? present) fresh, ?_⟩
      omega
    · rfl
  · rw [List.getElem?_concat_length, Option.some.injEq, eq_comm]
    simp
  · have outside : names.length ≤ slot := Nat.le_of_lt behind
    rw [List.getElem?_eq_none (by simp; omega), List.getElem?_eq_none outside]
    simpa using fun _ => by omega

/-- The variables stand under their own names, and no name stands twice. -/
structure WellFormed (entries : Entries) : Prop where
  named : ∀ pair ∈ entries.pairs, pair.2.name = pair.1
  distinct : entries.keys.Nodup

private theorem find?_eq_none_iff : entries.find? name = none ↔ name ∉ entries.keys := by
  simp only [find?, Option.map_eq_none_iff, List.find?_eq_none, keys, List.mem_map, beq_iff_eq]
  exact ⟨fun none ⟨pair, member, same⟩ => none pair member same, fun absent pair member same =>
    absent ⟨pair, member, same⟩⟩

private theorem WellFormed.find? (wellFormed : entries.WellFormed)
    (present : entries.pairs[slot]? = some (name, symbol)) :
    entries.find? name = some symbol := by
  obtain ⟨pairs⟩ := entries
  have distinct := wellFormed.distinct
  clear wellFormed
  simp only [Entries.find?] at present distinct ⊢
  induction pairs generalizing slot with
  | nil => cases present
  | cons pair rest ih =>
    obtain ⟨fresh, apart⟩ := List.nodup_cons.mp distinct
    cases slot with
    | zero =>
      obtain rfl : pair = (name, symbol) := by simpa using present
      simp
    | succ slot =>
      have later : rest[slot]? = some (name, symbol) := by simpa using present
      have different : pair.1 ≠ name := by
        intro same
        exact fresh (same ▸ List.mem_map_of_mem (List.mem_of_getElem? later))
      rw [List.find?_cons_of_neg (by simpa using different)]
      exact ih later apart

/-- What is not there is not changed. -/
theorem changeFirst_of_absent {pairs : List (String × Symbol)} (absent : name ∉ pairs.map Prod.fst) :
    changeFirst name f pairs = pairs := by
  induction pairs with
  | nil => rfl
  | cons pair rest ih =>
    obtain ⟨here, others⟩ := not_or.mp (mt List.mem_cons.mpr absent)
    rw [changeFirst, if_neg (Ne.symm here), ih others]

/-- Where names are unique, the pair in a slot is changed if it is that of the name. -/
theorem changeFirst_eq_modify {pairs : List (String × Symbol)} (distinct : (pairs.map Prod.fst).Nodup)
    (present : pairs[slot]? = some (name, symbol)) :
    changeFirst name f pairs = pairs.modify slot fun pair => (pair.1, f pair.2) := by
  induction pairs generalizing slot with
  | nil => cases present
  | cons pair rest ih =>
    obtain ⟨fresh, apart⟩ := List.nodup_cons.mp distinct
    cases slot with
    | zero =>
      obtain rfl : pair = (name, symbol) := by simpa using present
      simp [changeFirst]
    | succ slot =>
      have later : rest[slot]? = some (name, symbol) := by simpa using present
      have different : pair.1 ≠ name := by
        intro same
        exact fresh (same ▸ List.mem_map_of_mem (List.mem_of_getElem? later))
      rw [changeFirst, if_neg different, ih apart later, List.modify_succ_cons]

private theorem map_fst_changeFirst (pairs : List (String × Symbol)) :
    (changeFirst name f pairs).map Prod.fst = pairs.map Prod.fst := by
  induction pairs with
  | nil => rfl
  | cons pair rest ih =>
    rw [changeFirst]
    split
    · rfl
    · rw [List.map_cons, ih, List.map_cons]

/-- Where names are unique, all pairs with the name are changed. -/
theorem changeFirst_eq_map {pairs : List (String × Symbol)} (distinct : (pairs.map Prod.fst).Nodup) :
    changeFirst name f pairs = pairs.map fun pair => if pair.1 = name then (pair.1, f pair.2) else pair := by
  induction pairs with
  | nil => rfl
  | cons pair rest ih =>
    obtain ⟨fresh, apart⟩ := List.nodup_cons.mp distinct
    rw [changeFirst, List.map_cons]
    split
    · rename_i same
      rw [← ih apart, changeFirst_of_absent (same ▸ fresh)]
    · rw [ih apart]

/-- A new name is declared behind the others. -/
theorem WellFormed.declare (wellFormed : entries.WellFormed) (absent : entries.find? name = none)
    (type : ValueType) (scope : Scope) :
    WellFormed { pairs := entries.pairs ++ [(name, .declared name type scope)] } where
  named := by
    rw [List.forall_mem_append, List.forall_mem_singleton]
    exact ⟨wellFormed.named, rfl⟩
  distinct := by
    rw [keys_append, List.nodup_append]
    refine ⟨wellFormed.distinct, List.nodup_singleton _, ?_⟩
    rintro other old _ new rfl
    obtain rfl := List.mem_singleton.mp new
    exact find?_eq_none_iff.mp absent old

private theorem WellFormed.change (wellFormed : entries.WellFormed) (name : String)
    (keeps : ∀ symbol, (f symbol).name = symbol.name) :
    WellFormed { pairs := changeFirst name f entries.pairs } where
  named := by
    rw [changeFirst_eq_map wellFormed.distinct, List.forall_mem_map]
    intro pair member
    split
    · rw [keeps, wellFormed.named pair member]
    · exact wellFormed.named pair member
  distinct := by
    rw [keys, map_fst_changeFirst]
    exact wellFormed.distinct

end Entries

/-! ### The two tables -/

/-- The table lists the variables of the pairs. -/
structure Table.Lists (table : Table) (entries : Entries) : Prop where
  wellFormed : entries.WellFormed
  symbols : table.symbols = entries.pairs.map Prod.snd

private theorem Table.Lists.find? {table : Table} {entries : Entries} (lists : table.Lists entries) (name : String) :
    table.find? name = entries.find? name := by
  rw [Table.find?, lists.symbols, List.find?_map, Entries.find?]
  congr 1
  refine List.find?_congr fun pair member => ?_
  rw [Function.comp_apply, lists.wellFormed.named pair member]

private theorem Table.refines : Table.store.Refines Table.Lists where
  empty := ⟨⟨by simp [Entries.store], List.nodup_nil⟩, rfl⟩
  has lists name := congrArg Option.isSome (lists.find? name)
  find? lists name := lists.find? name
  size lists := by simp [Table.store, Table.size, lists.symbols, Entries.store]
  symbols lists := lists.symbols
  declare? := by
    intro table entries lists name type scope
    simp only [Table.store, Table.declare?, Table.has, lists.find? name, Entries.store]
    cases absent : entries.find? name with
    | some symbol => exact .none
    | none => exact .some ⟨lists.wellFormed.declare absent type scope, by simp [lists.symbols]⟩
  change := by
    intro table entries lists name f keeps
    refine ⟨lists.wellFormed.change name keeps, ?_⟩
    simp only [Table.store, Table.change, lists.symbols, Entries.store,
      Entries.changeFirst_eq_map lists.wellFormed.distinct, List.map_map]
    refine List.map_congr_left fun pair member => ?_
    simp only [Function.comp_apply, lists.wellFormed.named pair member]
    split <;> rfl

namespace InternedTable

variable {Key : Type} [DecidableEq Key] [Hashable Key] {interner : Interner Key}
  {table : InternedTable interner} {entries : Entries} {name : String}

/-- The slots hold the variables of the pairs, and each name leads to the slot of its pair. -/
structure Indexes (table : InternedTable interner) (entries : Entries) : Prop where
  wellFormed : entries.WellFormed
  symbols : table.symbols.toList = entries.pairs.map Prod.snd
  slot? : ∀ name slot, table.slot? name = some slot ↔ entries.keys[slot]? = some name

private theorem Indexes.cases (indexes : table.Indexes entries) (name : String) :
    (table.slot? name = none ∧ table.find? name = none ∧ entries.find? name = none) ∨
      ∃ slot symbol, table.slot? name = some slot ∧ entries.pairs[slot]? = some (name, symbol) ∧
        table.find? name = some symbol ∧ entries.find? name = some symbol := by
  cases leads : table.slot? name with
  | none =>
    refine .inl ⟨rfl, by simp [find?, leads], Entries.find?_eq_none_iff.mpr ?_⟩
    intro member
    obtain ⟨slot, present⟩ := List.getElem?_of_mem member
    rw [(indexes.slot? name slot).mpr present] at leads
    cases leads
  | some slot =>
    have leadsTo := (indexes.slot? name slot).mp leads
    rw [Entries.keys, List.getElem?_map, Option.map_eq_some_iff] at leadsTo
    obtain ⟨⟨_, symbol⟩, present, rfl⟩ := leadsTo
    have stored : table.symbols[slot]? = some symbol := by
      rw [← Array.getElem?_toList, indexes.symbols, List.getElem?_map, present, Option.map_some]
    exact .inr ⟨slot, symbol, rfl, present, by simp [find?, leads, stored], indexes.wellFormed.find? present⟩

private theorem Indexes.find? (indexes : table.Indexes entries) (name : String) :
    table.find? name = entries.find? name := by
  rcases indexes.cases name with ⟨_, found, present⟩ | ⟨_, _, _, _, found, present⟩ <;> rw [found, present]

private theorem Indexes.isSome_slot? (indexes : table.Indexes entries) (name : String) :
    (table.slot? name).isSome = (entries.find? name).isSome := by
  rcases indexes.cases name with ⟨leads, _, present⟩ | ⟨_, _, leads, _, _, present⟩ <;> rw [leads, present] <;> rfl

/-- A new name leads to the new slot, and the other names lead where they did. -/
theorem slot?_declare (lawful : interner.Lawful) (table : InternedTable interner) (name other : String)
    (symbol : Symbol) :
    let interned := interner.intern table.names name
    slot? { names := interned.1
            index := table.index.insert interned.2 table.symbols.size
            symbols := table.symbols.push symbol } other =
      if other = name then some table.symbols.size else table.slot? other := by
  intro interned
  simp only [slot?]
  by_cases same : other = name
  · subst same
    simp [interned, lawful.key?_intern_self]
  · rw [lawful.key?_intern_ne table.names same, if_neg same]
    cases key : interner.key? table.names other with
    | none => rfl
    | some otherKey =>
      -- Another name has another key, also behind the interning.
      have apart : interned.2 ≠ otherKey := by
        intro equal
        apply same
        refine lawful.key?_inj interned.1 ?_ (lawful.key?_intern_self table.names name)
        rw [lawful.key?_intern_ne table.names same, key, ← equal]
      simp [Std.HashMap.getElem?_insert, apart]

private theorem Indexes.declare (lawful : interner.Lawful) (indexes : table.Indexes entries)
    (absent : entries.find? name = none) (type : ValueType) (scope : Scope) :
    let interned := interner.intern table.names name
    Indexes { names := interned.1
              index := table.index.insert interned.2 table.symbols.size
              symbols := table.symbols.push (.declared name type scope) }
      { pairs := entries.pairs ++ [(name, .declared name type scope)] } where
  wellFormed := indexes.wellFormed.declare absent type scope
  symbols := by simp [indexes.symbols]
  slot? other slot := by
    have size : table.symbols.size = entries.keys.length := by
      rw [← Array.length_toList, indexes.symbols, List.length_map, Entries.keys, List.length_map]
    rw [slot?_declare lawful, size, Entries.keys_append,
      Entries.getElem?_append_new (Entries.find?_eq_none_iff.mp absent)]
    split
    · rw [Option.some.injEq, eq_comm]
    · exact indexes.slot? other slot

private theorem Indexes.change (indexes : table.Indexes entries) (name : String) {f : Symbol → Symbol}
    (keeps : ∀ symbol, (f symbol).name = symbol.name) :
    (table.change name f).Indexes { pairs := Entries.changeFirst name f entries.pairs } := by
  rcases indexes.cases name with ⟨leads, _, absent⟩ | ⟨slot, symbol, leads, present, _, _⟩
  · rw [InternedTable.change, leads, Entries.changeFirst_of_absent (Entries.find?_eq_none_iff.mp absent)]
    exact indexes
  · rw [InternedTable.change, leads]
    refine ⟨indexes.wellFormed.change name keeps, ?_, fun other place => ?_⟩
    · rw [Array.toList_modify, indexes.symbols, Entries.changeFirst_eq_modify indexes.wellFormed.distinct present]
      refine List.ext_getElem? fun k => ?_
      simp only [List.getElem?_modify, List.getElem?_map]
      cases entries.pairs[k]? with
      | none => rfl
      | some pair => by_cases here : slot = k <;> simp [here]
    · rw [Entries.keys, Entries.map_fst_changeFirst]
      exact indexes.slot? other place

private theorem refines (lawful : interner.Lawful) : (store interner).Refines Indexes where
  empty := by
    refine ⟨⟨by simp [Entries.store], List.nodup_nil⟩, rfl, fun name slot => ?_⟩
    simp [store, slot?, lawful.key?_empty, Entries.store, Entries.keys]
  has indexes name := indexes.isSome_slot? name
  find? indexes name := indexes.find? name
  size indexes := by
    change Array.size _ = List.length _
    rw [← Array.length_toList, indexes.symbols, List.length_map]
  symbols indexes := indexes.symbols
  declare? := by
    intro table entries indexes name type scope
    simp only [store, InternedTable.declare?, indexes.isSome_slot? name, Entries.store]
    cases absent : entries.find? name with
    | some symbol => exact .none
    | none => exact .some (indexes.declare lawful absent type scope)
  change indexes name _ keeps := indexes.change name keeps

end InternedTable

/-! ### Requests -/

namespace SymbolStore

variable {T : Type} {store : SymbolStore T} {rel : T → Entries → Prop} {t : T} {entries : Entries}

/-- A request is answered as by the pairs, and leaves a table that does what the pairs do then. -/
theorem Refines.answer (refines : store.Refines rel) (related : rel t entries) (request : Request) :
    (store.answer t request).2 = (Entries.store.answer entries request).2 ∧
      rel (store.answer t request).1 (Entries.store.answer entries request).1 := by
  cases request with
  | declare name type scope =>
    have declared := refines.declare? related name type scope
    simp only [SymbolStore.answer]
    cases first : store.declare? t name type scope <;>
      cases second : Entries.store.declare? entries name type scope <;> rw [first, second] at declared
    · exact ⟨rfl, related⟩
    · cases declared
    · cases declared
    · cases declared with
      | some grown => exact ⟨congrArg Answer.found (refines.find? grown name), grown⟩
  | has name => exact ⟨congrArg Answer.known (refines.has related name), related⟩
  | find name => exact ⟨congrArg Answer.found (refines.find? related name), related⟩
  | size => exact ⟨congrArg Answer.counted (refines.size related), related⟩
  | assign name value =>
    have changed := refines.change related name (Symbol.assign_name value)
    exact ⟨congrArg Answer.found (refines.find? changed name), changed⟩
  | update name value =>
    have changed := refines.change related name (Symbol.update_name value)
    exact ⟨congrArg Answer.found (refines.find? changed name), changed⟩

private theorem Refines.serve (refines : store.Refines rel) (related : rel t entries) (requests : List Request) :
    (store.serve t requests).2 = (Entries.store.serve entries requests).2 ∧
      rel (store.serve t requests).1 (Entries.store.serve entries requests).1 := by
  induction requests generalizing t entries with
  | nil => exact ⟨rfl, related⟩
  | cons request rest ih =>
    obtain ⟨first, next⟩ := refines.answer related request
    obtain ⟨others, last⟩ := ih next
    exact ⟨congrArg₂ List.cons first others, last⟩

/-- What is promised of a table that does what the pairs do. -/
structure Keeps (store : SymbolStore T) (t : T) (entries : Entries) : Prop where
  /-- The variables are those of the pairs, in the order of their declarations. -/
  symbols : store.symbols t = entries.pairs.map Prod.snd
  /-- A report that lists the variables finds the same ones. -/
  report : ∀ report : Report, report.symbols = store.symbols t → ∀ name, report.find? name = store.find? t name
  refuses : ∀ name type scope, store.has t name = true →
    store.answer t (.declare name type scope) = (t, .refused (Problem.redeclared name).message)
  /-- An assignment changes the variable of the name and no other. -/
  assigns : ∀ name value, store.symbols (store.answer t (.assign name value)).1 =
    (store.symbols t).map fun symbol => if symbol.name = name then symbol.assign value else symbol

private theorem Refines.keeps (refines : store.Refines rel) (related : rel t entries)
    (wellFormed : entries.WellFormed) :
    store.Keeps t entries where
  symbols := refines.symbols related
  report report same name := by
    have lists : Table.Lists ⟨report.symbols⟩ entries := ⟨wellFormed, same.trans (refines.symbols related)⟩
    exact (lists.find? name).trans (refines.find? related name).symm
  refuses name type scope known := by
    have refused : Entries.store.declare? entries name type scope = none :=
      if_pos ((refines.has related name).symm.trans known)
    have declared := refines.declare? related name type scope
    rw [refused] at declared
    rw [SymbolStore.answer]
    cases first : store.declare? t name type scope with
    | none => rfl
    | some larger =>
      rw [first] at declared
      cases declared
  assigns name value := by
    have changed := refines.change related name (Symbol.assign_name value)
    have lists : Table.Lists ⟨store.symbols t⟩ entries := ⟨wellFormed, refines.symbols related⟩
    have listed := Table.refines.change lists name (Symbol.assign_name value)
    exact (refines.symbols changed).trans (Table.refines.symbols listed).symm

/-- Whatever is asked of an empty table, its answers are those of a list of pairs that is searched from the front, be
it a list of variables or slots that are found through interned names. A name that is there is refused, with nothing
changed, and names stay distinct. -/
theorem serve_eq_entries {Key : Type} [DecidableEq Key] [Hashable Key] (interner : Interner Key)
    (lawful : interner.Lawful) (requests : List Request) :
    let entries := Entries.store.serve {} requests
    let interned := (InternedTable.store interner).serve {} requests
    let table := Table.store.serve .empty requests
    interned.2 = entries.2 ∧ table.2 = entries.2 ∧ entries.1.WellFormed ∧
      (InternedTable.store interner).Keeps interned.1 entries.1 ∧ Table.store.Keeps table.1 entries.1 := by
  intro entries interned table
  have internedRefines := InternedTable.refines lawful
  obtain ⟨internedAnswers, indexes⟩ := internedRefines.serve internedRefines.empty requests
  obtain ⟨tableAnswers, lists⟩ := Table.refines.serve Table.refines.empty requests
  have wellFormed : entries.1.WellFormed := lists.wellFormed
  exact ⟨internedAnswers, tableAnswers, wellFormed, internedRefines.keeps indexes wellFormed,
    Table.refines.keeps lists wellFormed⟩

end SymbolStore

/-- Numbers names in the order in which they are interned. -/
def Interner.numbering : Interner Nat where
  Names := List String
  empty := []
  key? names name := names.idxOf? name
  intern names name :=
    match names.idxOf? name with
    | some key => (names, key)
    | none => (names ++ [name], names.length)

private theorem Interner.idxOf?_append_singleton (names : List String) (name other : String) :
    (names ++ [name]).idxOf? other =
      (names.idxOf? other).or (if name = other then some names.length else none) := by
  by_cases same : name = other <;> simp [List.idxOf?, List.findIdx?_append, same]

private theorem Interner.lawful_numbering : Interner.numbering.Lawful where
  key?_empty _ := rfl
  key?_intern_self names name := by
    simp only [numbering]
    cases known : names.idxOf? name with
    | some key => exact known
    | none => exact (idxOf?_append_singleton names name name).trans (by rw [known, if_pos rfl, Option.none_or])
  key?_intern_ne := by
    intro names name other different
    simp only [numbering]
    cases names.idxOf? name with
    | some key => rfl
    | none => exact (idxOf?_append_singleton names name other).trans (by rw [if_neg (Ne.symm different), Option.or_none])
  key?_inj := by
    intro names first second key isFirst isSecond
    obtain ⟨_, standsFirst, _⟩ := List.idxOf?_eq_some_iff.mp isFirst
    obtain ⟨_, standsSecond, _⟩ := List.idxOf?_eq_some_iff.mp isSecond
    exact standsFirst.symm.trans standsSecond

/-- A name is looked up before it is declared, and declared again with another type and at another place. -/
theorem SymbolStore.serve_numbered :
    let requests : List Request := [.find "x", .declare "y" .string ⟨0, 0⟩, .declare "x" .int ⟨1, 1⟩, .assign "x" (.int 3),
      .declare "x" .float ⟨1, 3⟩, .find "x", .has "z", .size]
    let store := InternedTable.store Interner.numbering
    let y : Symbol := .declared "y" .string ⟨0, 0⟩
    let x : Symbol := .declared "x" .int ⟨1, 1⟩
    Interner.numbering.Lawful ∧
      (store.serve {} requests).2 = [.found none, .found y, .found x, .found (x.assign (.int 3)),
        .refused "'x' already exists. Cannot re-declare a variable.", .found (x.assign (.int 3)), .known false,
        .counted 2] ∧
      store.symbols (store.serve {} requests).1 = [y, x.assign (.int 3)] := by
  intro requests store y x
  obtain ⟨answers, _, _, keeps, _⟩ := serve_eq_entries Interner.numbering Interner.lawful_numbering requests
  refine ⟨Interner.lawful_numbering, ?_, ?_⟩
  · rw [answers]
    decide +kernel
  · rw [keeps.symbols]
    decide +kernel

end ScriptCheck
