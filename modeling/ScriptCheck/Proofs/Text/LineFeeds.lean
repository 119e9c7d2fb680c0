import Mathlib.Algebra.GroupWithZero.Nat
import ScriptCheck.Scope
import ScriptCheck.Text.Columns
import ScriptCheck.Value

/-! # Line feeds in texts

A listing puts a line feed behind each of its items, so it has as many lines as items where no item holds a line
feed (`lineFeeds_join`). Numbers hold none, however they are written.
-/

namespace ScriptCheck

def lineFeeds (s : String) : Nat := s.toList.count '\n'

variable {s : String}

theorem lineFeeds_eq_zero_iff : lineFeeds s = 0 ↔ '\n' ∉ s.toList := List.count_eq_zero

theorem lineFeeds_append (front back : String) :
    lineFeeds (front ++ back) = lineFeeds front + lineFeeds back := by
  simp [lineFeeds]

theorem lineFeeds_toString (s : String) : lineFeeds (toString s) = lineFeeds s := rfl

theorem lineFeeds_ofList (cs : List Char) : lineFeeds (String.ofList cs) = cs.count '\n' := by
  simp [lineFeeds]

/-- A part of a text has no more line feeds than the text. -/
theorem lineFeeds_le_of_sublist {cs : List Char} (part : cs.Sublist s.toList) :
    lineFeeds (String.ofList cs) ≤ lineFeeds s := by
  rw [lineFeeds_ofList]
  exact part.count_le '\n'

/-- Items each on a line of its own, which may be broken by what the item holds. -/
theorem lineFeeds_join {α : Type} {items : List α} {line : α → String} {held : α → Nat}
    (each : ∀ item ∈ items, lineFeeds (line item) = 1 + held item) :
    lineFeeds (String.join (items.map line)) = items.length + (items.map held).sum := by
  induction items with
  | nil => simp [lineFeeds, String.join]
  | cons item rest ih =>
    have first := each item (List.mem_cons_self ..)
    have later := ih fun other member => each other (List.mem_cons_of_mem _ member)
    simp only [List.map_cons, String.join_cons, lineFeeds_append, first, later, List.length_cons, List.sum_cons]
    omega

/-- Items each on a line of its own, which only some of them may break. -/
theorem lineFeeds_join_filter {α : Type} {items : List α} {line : α → String} {breaks : α → Bool}
    {held : α → Nat} (each : ∀ item ∈ items, lineFeeds (line item) = 1 + if breaks item then held item else 0) :
    lineFeeds (String.join (items.map line)) = items.length + ((items.filter breaks).map held).sum := by
  rw [lineFeeds_join each]
  congr 1
  clear each
  induction items with
  | nil => rfl
  | cons item rest ih =>
    rw [List.map_cons, List.sum_cons, ih, List.filter_cons]
    split
    · rw [List.map_cons, List.sum_cons]
    · exact Nat.zero_add _

/-- Items that hold no line feed are on one line each. -/
theorem sum_held_eq_zero {α : Type} {items : List α} {held : α → Nat} (none : ∀ item ∈ items, held item = 0) :
    (items.map held).sum = 0 :=
  List.sum_eq_zero_iff_forall_eq_nat.mpr (List.forall_mem_map.mpr none)

/-! ### Numbers -/

theorem not_mem_toDigits (n : Nat) : '\n' ∉ Nat.toDigits 10 n := by
  intro member
  have digit := Nat.isDigit_of_mem_toDigits (by omega) (by omega) member
  exact absurd digit (by decide)

private theorem lineFeeds_repr (n : Nat) : lineFeeds n.repr = 0 := by
  rw [lineFeeds_eq_zero_iff, Nat.toList_repr]
  exact not_mem_toDigits n

theorem lineFeeds_nat (n : Nat) : lineFeeds (toString n) = 0 := lineFeeds_repr n

theorem lineFeeds_int (n : Int) : lineFeeds (toString n) = 0 := by
  cases n with
  | ofNat n => exact lineFeeds_repr n
  | negSucc n =>
    change lineFeeds ("-" ++ (n + 1).repr) = 0
    rw [lineFeeds_append, lineFeeds_repr]
    simp [lineFeeds]

namespace Decimal

private theorem not_mem_zeros (n : Nat) : '\n' ∉ zeros n := by
  simp [zeros, List.mem_replicate]

private theorem Scientific.not_mem_chars (d : Scientific) : '\n' ∉ d.chars := by
  have digits : '\n' ∉ digitChars d.digits := not_mem_toDigits d.digits
  have front : ∀ n, '\n' ∉ (digitChars d.digits).take n := fun n member => digits (List.mem_of_mem_take member)
  have back : ∀ n, '\n' ∉ (digitChars d.digits).drop n := fun n member => digits (List.mem_of_mem_drop member)
  have power : ∀ n : Int, '\n' ∉ (toString n).toList := fun n => lineFeeds_eq_zero_iff.mp (lineFeeds_int n)
  unfold chars
  dsimp only
  split
  · unfold plain
    dsimp only
    split
    · simp [digits, not_mem_zeros]
    split
    · simp [front, back]
    · simp [digits, not_mem_zeros]
  · unfold powered
    dsimp only
    split <;> simp only [List.mem_append, List.mem_cons, front, back, power, List.not_mem_nil, or_false, false_or] <;>
      decide

private theorem not_mem_shortestChars (size : Magnitude) : '\n' ∉ shortestChars size := by
  cases size with
  | notANumber | infinite => simp [shortestChars]
  | finite b =>
    unfold shortestChars
    dsimp only
    split
    · simp
    · exact Scientific.not_mem_chars _

theorem not_mem_hundredthsChars (size : Magnitude) : '\n' ∉ hundredthsChars size := by
  cases size with
  | notANumber | infinite => simp [hundredthsChars]
  | finite b => simp [hundredthsChars, digitChars, not_mem_toDigits]

theorem lineFeeds_signed (x : Float) {chars : Magnitude → List Char} (none : ∀ size, '\n' ∉ chars size) :
    lineFeeds (signed x chars) = 0 := by
  rw [signed, lineFeeds_ofList, List.count_eq_zero]
  split
  · simp [none]
  · exact none _

end Decimal

/-- Numbers hold no line feed. -/
theorem Value.lineFeeds_text (value : Value) :
    lineFeeds value.text = match value with
      | .string s => lineFeeds s
      | _ => 0 := by
  cases value with
  | int n => exact lineFeeds_int _
  | float x => exact Decimal.lineFeeds_signed x Decimal.not_mem_shortestChars
  | string s => rfl

theorem Scope.lineFeeds_text (scope : Scope) : lineFeeds scope.text = 0 := by
  simp only [Scope.text, lineFeeds_append, lineFeeds_toString, lineFeeds_int, lineFeeds_nat]
  simp [lineFeeds]

end ScriptCheck
