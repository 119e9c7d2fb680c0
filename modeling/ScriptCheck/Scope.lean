/-! # Block coordinates

A place in a script is given by how many blocks are open there and by how many braces precede it.
A variable can be reached from its own coordinate and from every deeper one that comes later.
-/

namespace ScriptCheck

/-- The number of open blocks, and the number of braces passed so far. -/
structure Scope where
  depth : Int
  region : Nat
deriving DecidableEq, Repr

namespace Scope

/-- Before the first brace. -/
def outermost : Scope := ⟨0, 0⟩

/-- The coordinate after one character of a script: a brace opens or closes a block. -/
def after (scope : Scope) (c : Char) : Scope :=
  if c = '{' then ⟨scope.depth + 1, scope.region + 1⟩
  else if c = '}' then ⟨scope.depth - 1, scope.region + 1⟩
  else scope

/-- The coordinates after each character of a text. -/
def trail (scope : Scope) : List Char → List Scope
  | [] => []
  | c :: rest => scope.after c :: trail (scope.after c) rest

/-- Whether what is declared at `declared` can be reached from `site`. -/
def visibleFrom (declared site : Scope) : Bool :=
  declared == site || (declared.depth < site.depth && declared.region < site.region)

theorem visibleFrom_iff (declared site : Scope) :
    declared.visibleFrom site = true ↔
      declared = site ∨ (declared.depth < site.depth ∧ declared.region < site.region) := by
  simp [visibleFrom]

/-- A coordinate as the reports write it. -/
def text (scope : Scope) : String :=
  let depth := toString scope.depth
  s!"tab level: {depth}, tab id: {scope.region}"

end Scope

end ScriptCheck
