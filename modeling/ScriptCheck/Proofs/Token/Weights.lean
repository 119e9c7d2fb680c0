import ScriptCheck.Token

/-! # Tokens counted by their kind

Braces and parentheses are counted alike: a token that opens counts one up, one that closes counts one down,
and every other one nothing. The sum over some tokens says how many more of them open than close.
-/

namespace ScriptCheck

/-- What a token of this kind adds to the number of open blocks. -/
def Kind.weight : Kind → Int
  | openScope => 1
  | closeScope => -1
  | _ => 0

/-- What a token of this kind adds to the number of open parentheses. -/
def Kind.paren : Kind → Int
  | openParen => 1
  | closeParen => -1
  | _ => 0

namespace Token

def total (weight : Kind → Int) (ts : List Token) : Int :=
  ts.foldr (fun t sum => weight t.kind + sum) 0

theorem total_append (weight : Kind → Int) (front back : List Token) :
    total weight (front ++ back) = total weight front + total weight back := by
  induction front with
  | nil => exact (Int.zero_add _).symm
  | cons t ts ih =>
    change weight t.kind + total weight (ts ++ back) = weight t.kind + total weight ts + total weight back
    rw [ih, Int.add_assoc]

/-- How many more blocks some tokens open than they close. -/
def balance (ts : List Token) : Int := total Kind.weight ts

/-- The number of braces among some tokens. -/
def braces (ts : List Token) : Nat := ts.countP fun t => t.kind.isScope

@[simp] theorem balance_nil : balance [] = 0 := rfl

@[simp] theorem balance_cons (t : Token) (ts : List Token) :
    balance (t :: ts) = t.kind.weight + balance ts := rfl

@[simp] theorem balance_append (front back : List Token) :
    balance (front ++ back) = balance front + balance back :=
  total_append Kind.weight front back

@[simp] theorem braces_nil : braces [] = 0 := rfl

@[simp] theorem braces_cons (t : Token) (ts : List Token) :
    braces (t :: ts) = (if t.kind.isScope then 1 else 0) + braces ts := by
  simp [braces, List.countP_cons, Nat.add_comm]

@[simp] theorem braces_append (front back : List Token) :
    braces (front ++ back) = braces front + braces back := by
  simp [braces]

/-- A brace counts one up or one down, so there are at least as many braces as blocks left open. -/
theorem balance_le_braces (ts : List Token) : balance ts ≤ braces ts := by
  induction ts with
  | nil => simp
  | cons t ts ih =>
    rw [balance_cons, braces_cons]
    cases t.kind <;> simp [Kind.weight, Kind.isScope] <;> omega

theorem balance_eq_zero_of_braces {ts : List Token} (none : braces ts = 0) : balance ts = 0 := by
  induction ts with
  | nil => rfl
  | cons t ts ih =>
    rw [braces_cons] at none
    rw [balance_cons, ih (by omega)]
    cases kind : t.kind <;> simp [kind, Kind.weight, Kind.isScope] at none ⊢

/-- The blocks left open are those opened less those closed. -/
theorem balance_eq_countP (ts : List Token) :
    balance ts = ts.countP (fun t => t.kind == .openScope) - ts.countP (fun t => t.kind == .closeScope) := by
  induction ts with
  | nil => rfl
  | cons t ts ih =>
    rw [balance_cons, ih, List.countP_cons, List.countP_cons]
    cases t.kind <;> simp [Kind.weight] <;> omega

theorem paren_of_isValue {t : Token} (value : t.isValue = true) : t.kind.paren = 0 := by
  cases kind : t.kind <;> simp [isValue, Kind.isValue, kind] at value <;> rfl

end Token

end ScriptCheck
