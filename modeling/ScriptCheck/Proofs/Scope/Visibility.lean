import ScriptCheck.Proofs.Scope.Coordinates

/-! # Visibility and open blocks

A coordinate keeps two numbers of a place and not the tree of its blocks. So a variable can be reached
from where it stands and from every later place at which more blocks are open, whatever happened in
between. `visibleFrom_iff_balance` says this for the tokens of a source, and names the two situations in
which it differs from "the block of the declaration is still open": the place is back in that block after
inner blocks have been closed, or the block is closed and a deeper one has been opened since.
-/

namespace ScriptCheck

namespace Token

/-- The block in which the token at `p` lies is still open at position `q`: nowhere on the way have
more blocks been closed than opened. -/
def StaysOpen (ts : List Token) (p q : Nat) : Prop :=
  ∀ r, r ≤ q → p ≤ r → 0 ≤ balance (between ts p r)

instance (ts : List Token) (p q : Nat) : Decidable (StaysOpen ts p q) :=
  inferInstanceAs (Decidable (∀ r, r ≤ q → p ≤ r → 0 ≤ balance (between ts p r)))

private theorem staysOpen_of_braces {ts : List Token} {p q : Nat} (none : braces (between ts p q) = 0) :
    StaysOpen ts p q := by
  intro r within _
  have shorter : between ts p r = (between ts p q).take (r - p) := by
    rw [between, between, List.take_drop, List.take_take,
      show min (p + 1 + (r - p)) (q + 1) = r + 1 by omega]
  have fewer : braces (between ts p r) ≤ braces (between ts p q) := by
    rw [shorter]
    exact (List.take_sublist ..).countP_le
  exact Int.le_of_eq (balance_eq_zero_of_braces (by omega)).symm

end Token

/-- Moving on over some tokens keeps a coordinate visible exactly when no brace was among them or
they opened more blocks than they closed. -/
theorem Scope.visibleFrom_past (scope : Scope) (ts : List Token) :
    scope.visibleFrom (scope.past ts) = true ↔
      Token.braces ts = 0 ∨ 0 < Token.balance ts := by
  have bound := Token.balance_le_braces ts
  obtain ⟨depth, region⟩ := scope
  simp only [Scope.visibleFrom_iff, Scope.past, Scope.mk.injEq]
  constructor
  · rintro (⟨-, same⟩ | ⟨deeper, -⟩)
    · left
      omega
    · right
      omega
  · rintro (none | opened)
    · have := Token.balance_eq_zero_of_braces none
      left
      omega
    · right
      omega

/-- A token is visible from a later one exactly when no brace lies between them or the braces between
them open more blocks than they close. This is lexical enclosure except in two situations: the later
token is back in the still open block after inner blocks were closed, or the block is closed and more
blocks are open again. -/
theorem visibleFrom_iff_balance {source : String} {p q : Nat} {d u : Token} (ordered : p ≤ q)
    (declared : (tokenize source)[p]? = some d) (used : (tokenize source)[q]? = some u) :
    (d.scope.visibleFrom u.scope = true ↔
      Token.braces (Token.between (tokenize source) p q) = 0 ∨
        0 < Token.balance (Token.between (tokenize source) p q)) ∧
    ((d.scope.visibleFrom u.scope = true ↔ Token.StaysOpen (tokenize source) p q) ↔
      ¬ (Token.StaysOpen (tokenize source) p q ∧
          0 < Token.braces (Token.between (tokenize source) p q) ∧
          Token.balance (Token.between (tokenize source) p q) = 0) ∧
      ¬ (¬ Token.StaysOpen (tokenize source) p q ∧
          0 < Token.balance (Token.between (tokenize source) p q))) := by
  have visible : d.scope.visibleFrom u.scope = true ↔
      Token.braces (Token.between (tokenize source) p q) = 0 ∨
        0 < Token.balance (Token.between (tokenize source) p q) := by
    rw [scope_getElem?_of_le ordered declared used]
    exact d.scope.visibleFrom_past _
  refine ⟨visible, ?_⟩
  rw [visible]
  have still : Token.braces (Token.between (tokenize source) p q) = 0 →
      Token.StaysOpen (tokenize source) p q := Token.staysOpen_of_braces
  by_cases stays : Token.StaysOpen (tokenize source) p q
  · have level := stays q (Nat.le_refl q) ordered
    simp only [stays, true_and, not_true_eq_false, false_and, not_false_eq_true, and_true, iff_true]
    omega
  · have crossed := mt still stays
    simp only [stays, false_and, not_false_eq_true, true_and, iff_false]
    omega

/-- The variable of a closed block can be reached from a deeper block that was opened later. -/
theorem visible_from_deeper_block :
    (tokenize "\x7b int a; \x7d \x7b \x7b a = 5; \x7d \x7d")[2]? =
        some ⟨.identifier, "a", 1, ⟨1, 1⟩, ⟨6, 7⟩⟩ ∧
      (tokenize "\x7b int a; \x7d \x7b \x7b a = 5; \x7d \x7d")[7]? =
        some ⟨.identifier, "a", 1, ⟨2, 4⟩, ⟨15, 16⟩⟩ ∧
      Scope.visibleFrom ⟨1, 1⟩ ⟨2, 4⟩ = true := by
  have declared : (tokenize "\x7b int a; \x7d \x7b \x7b a = 5; \x7d \x7d")[2]? =
      some ⟨.identifier, "a", 1, ⟨1, 1⟩, ⟨6, 7⟩⟩ := by decide +kernel
  have used : (tokenize "\x7b int a; \x7d \x7b \x7b a = 5; \x7d \x7d")[7]? =
      some ⟨.identifier, "a", 1, ⟨2, 4⟩, ⟨15, 16⟩⟩ := by decide +kernel
  refine ⟨declared, used, ?_⟩
  exact (visibleFrom_iff_balance (by decide) declared used).1.mpr (by decide +kernel)

/-- Visibility is not lexical enclosure: behind an inner block, the variables of the block around it
cannot be reached, although that block is still open. -/
theorem visibleFrom_not_enclosure :
    ¬ ∀ (source : String) (p q : Nat) (d u : Token), p ≤ q →
      (tokenize source)[p]? = some d → (tokenize source)[q]? = some u →
      (d.scope.visibleFrom u.scope = true ↔ Token.StaysOpen (tokenize source) p q) := by
  intro encloses
  have agrees := encloses "int a; \x7b \x7d a = 5;" 1 5 ⟨.identifier, "a", 1, ⟨0, 0⟩, ⟨4, 5⟩⟩
    ⟨.identifier, "a", 1, ⟨0, 2⟩, ⟨11, 12⟩⟩ (by decide) (by decide +kernel) (by decide +kernel)
  have stays : Token.StaysOpen (tokenize "int a; \x7b \x7d a = 5;") 1 5 := by decide +kernel
  exact absurd (agrees.mpr stays) (by decide)

end ScriptCheck
