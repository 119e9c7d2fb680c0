import Mathlib.Data.List.TakeWhile
import ScriptCheck.Numeral

/-! # The grammar of numerals

Which texts are numerals is said here without their reader: digits, or digits and one point with at least one digit
beside it (`AllDigits`, `Pointed`). The reader accepts exactly these (`Numeral.value?_grammar`). Digits are the integer
that they write, unless it does not fit 64 bits; digits with a point are the double that the general reader of decimal
text gives for them. The text of an integer that is not negative is read back.
-/

namespace ScriptCheck

def AllDigits (text : String) : Prop := text.toList ≠ [] ∧ text.toList.all Char.isDigit = true

instance (text : String) : Decidable (AllDigits text) := inferInstanceAs (Decidable (_ ∧ _))

/-- A text of digits and one point, with the digits `whole` before the point and `fraction` behind it. There is at
least one digit on one of the two sides. -/
structure Pointed (text : String) (whole fraction : List Char) : Prop where
  split : text.toList = whole ++ '.' :: fraction
  nonempty : whole ++ fraction ≠ []
  digits : ∀ c ∈ whole ++ fraction, c.isDigit = true

private theorem ne_point_of_isDigit {c : Char} (digit : c.isDigit = true) : c ≠ '.' := by
  rintro rfl
  exact absurd digit (by decide)

private theorem Numeral.isPart_iff {c : Char} : Numeral.isPart c = true ↔ c.isDigit = true ∨ c = '.' := by
  simp [Numeral.isPart]

private theorem Numeral.toLower_of_isPart {c : Char} (part : Numeral.isPart c = true) : c.toLower = c := by
  rcases Numeral.isPart_iff.mp part with digit | rfl
  · have most : c.toNat ≤ '9'.toNat := (Char.isDigit_iff_toNat.mp digit).2
    apply dif_neg
    rintro ⟨least, _⟩
    have above : 'A'.toNat ≤ c.toNat := least
    exact absurd (Nat.le_trans above most) (by decide)
  · decide

variable {text : String} {whole fraction : List Char}

/-- The digits on both sides of a point are the digits of the text. -/
theorem Numeral.digitsOf_split (digits : ∀ c ∈ whole ++ fraction, c.isDigit = true) :
    Numeral.digitsOf (whole ++ '.' :: fraction) = whole ++ fraction := by
  have kept := List.filter_eq_self.mpr digits
  rw [List.filter_append] at kept
  rw [Numeral.digitsOf, List.filter_append, List.filter_cons_of_neg (by decide), kept]

/-! ### Digits -/

namespace AllDigits

private theorem point_not_mem (digits : AllDigits text) : '.' ∉ text.toList := fun point =>
  ne_point_of_isDigit (List.all_eq_true.mp digits.2 _ point) rfl

/-- A text of digits is an integer if its number fits 64 bits, and no numeral otherwise. -/
theorem value?_eq (digits : AllDigits text) :
    Numeral.value? text =
      if Decimal.ofDigits text.toList ≤ Value.largestInt then
        some (.int (Int64.ofNat (Decimal.ofDigits text.toList)))
      else none := by
  have noPoint : text.toList.count '.' = 0 := List.count_eq_zero.mpr digits.point_not_mem
  obtain ⟨nonempty, all⟩ := digits
  have digits := List.all_eq_true.mp all
  have parts : text.toList.all Numeral.isPart = true :=
    List.all_eq_true.mpr fun c member => Numeral.isPart_iff.mpr (.inl (digits c member))
  have same : Numeral.digitsOf text.toList = text.toList := List.filter_eq_self.mpr digits
  simp [Numeral.value?, Numeral.valueOfChars, parts, same, nonempty, noPoint]

end AllDigits

/-! ### Digits with a point -/

namespace Pointed

variable (pointed : Pointed text whole fraction)
include pointed

private theorem point_not_mem_whole : '.' ∉ whole := fun point =>
  ne_point_of_isDigit (pointed.digits _ (List.mem_append_left _ point)) rfl

private theorem point_not_mem_fraction : '.' ∉ fraction := fun point =>
  ne_point_of_isDigit (pointed.digits _ (List.mem_append_right _ point)) rfl

private theorem isPart : ∀ c ∈ text.toList, Numeral.isPart c = true := by
  intro c member
  rw [pointed.split, List.mem_append, List.mem_cons] at member
  apply Numeral.isPart_iff.mpr
  rcases member with before | rfl | behind
  · exact .inl (pointed.digits c (List.mem_append_left _ before))
  · exact .inr rfl
  · exact .inl (pointed.digits c (List.mem_append_right _ behind))

/-- The value of such a text is the double nearest to its digits over a power of ten. -/
theorem value?_eq :
    Numeral.value? text =
      some (.float (Decimal.nearest (Decimal.ofDigits (whole ++ fraction)) (-fraction.length))) := by
  have noPoint := pointed.point_not_mem_whole
  have parts : text.toList.all Numeral.isPart = true := List.all_eq_true.mpr pointed.isPart
  have same : Numeral.digitsOf text.toList = whole ++ fraction := by
    rw [pointed.split, Numeral.digitsOf_split pointed.digits]
  have once : text.toList.count '.' = 1 := by
    rw [pointed.split, List.count_append, List.count_cons_self, List.count_eq_zero.mpr noPoint,
      List.count_eq_zero.mpr pointed.point_not_mem_fraction]
  have places : (text.toList.dropWhile (· != '.')).length - 1 = fraction.length := by
    have skipped : ∀ c ∈ whole, (c != '.') = true := fun c member =>
      bne_iff_ne.mpr fun point => noPoint (point ▸ member)
    rw [pointed.split, List.dropWhile_append_of_pos skipped, List.dropWhile_cons_of_neg (by decide)]
    rfl
  have nonempty : (whole ++ fraction).isEmpty = false := List.isEmpty_eq_false_iff.mpr pointed.nonempty
  rw [Numeral.value?, Numeral.valueOfChars, parts, same, nonempty, once, places]
  rfl

private theorem readMagnitude_eq :
    Decimal.readMagnitude text.toList =
      some (Decimal.nearest (Decimal.ofDigits (whole ++ fraction)) (-fraction.length)) := by
  have before : ∀ c ∈ whole, c.isDigit = true := fun c member => pointed.digits c (List.mem_append_left _ member)
  have behind : ∀ c ∈ fraction, c.isDigit = true := fun c member => pointed.digits c (List.mem_append_right _ member)
  have taken : text.toList.takeWhile Char.isDigit = whole := by
    rw [pointed.split, List.takeWhile_append_of_pos before, List.takeWhile_cons_of_neg (by decide), List.append_nil]
  have left : text.toList.dropWhile Char.isDigit = '.' :: fraction := by
    rw [pointed.split, List.dropWhile_append_of_pos before, List.dropWhile_cons_of_neg (by decide)]
  have all : fraction.takeWhile Char.isDigit = fraction := List.takeWhile_eq_self_iff.mpr behind
  have none : fraction.dropWhile Char.isDigit = [] := List.dropWhile_eq_nil_iff.mpr behind
  have some : (whole.isEmpty && fraction.isEmpty) = false := by
    simpa using pointed.nonempty
  simp [Decimal.readMagnitude, taken, left, all, none, some]

private theorem ne_word {word : String} (odd : word.toList.all Numeral.isPart = false) : text ≠ word := by
  rintro rfl
  rw [List.all_eq_true.mpr pointed.isPart] at odd
  cases odd

/-- The general reader of decimal text gives the same double. -/
theorem readFloat_eq :
    Decimal.readFloat text =
      some (Decimal.nearest (Decimal.ofDigits (whole ++ fraction)) (-fraction.length)) := by
  have lower : text.toList.map Char.toLower = text.toList := by
    calc
      text.toList.map Char.toLower = text.toList.map id :=
        List.map_congr_left fun c member => Numeral.toLower_of_isPart (pointed.isPart c member)
      _ = text.toList := List.map_id _
  have unsigned : ∀ sign, Numeral.isPart sign = false → ∀ rest, text.toList ≠ sign :: rest := by
    intro sign odd rest same
    rw [pointed.isPart sign (same ▸ List.mem_cons_self ..)] at odd
    cases odd
  unfold Decimal.readFloat
  split
  next negative cs same =>
    have whole : (negative, cs) = (false, text.toList) := by
      rw [← same]
      split
      · exact absurd (by assumption) (unsigned '-' rfl _)
      · exact absurd (by assumption) (unsigned '+' rfl _)
      · rfl
    obtain ⟨rfl, rfl⟩ := Prod.mk.inj whole
    rw [lower, String.ofList_toList, pointed.readMagnitude_eq]
    split
    · exact absurd rfl (pointed.ne_word (by decide))
    · exact absurd rfl (pointed.ne_word (by decide))
    · exact absurd rfl (pointed.ne_word (by decide))
    · rfl

end Pointed

/-! ### Other texts -/

/-- Characters of numerals, among them a digit and one point, are digits with a point. -/
theorem exists_pointed (parts : ∀ c ∈ text.toList, Numeral.isPart c = true)
    (nonempty : Numeral.digitsOf text.toList ≠ []) (once : text.toList.count '.' = 1) :
    ∃ whole fraction, Pointed text whole fraction := by
  have point : '.' ∈ text.toList := List.count_pos_iff.mp (by omega)
  obtain ⟨whole, fraction, split⟩ := List.append_of_mem point
  rw [split, List.count_append, List.count_cons_self] at once
  have before : '.' ∉ whole := List.count_eq_zero.mp (by omega)
  have behind : '.' ∉ fraction := List.count_eq_zero.mp (by omega)
  have digits : ∀ c ∈ whole ++ fraction, c.isDigit = true := by
    intro c member
    have inside : c ∈ text.toList := by
      rw [split]
      rcases List.mem_append.mp member with left | right
      · exact List.mem_append_left _ left
      · exact List.mem_append_right _ (List.mem_cons_of_mem _ right)
    rcases Numeral.isPart_iff.mp (parts c inside) with digit | rfl
    · exact digit
    · exact absurd member (by simp [before, behind])
  rw [split, Numeral.digitsOf_split digits] at nonempty
  exact ⟨whole, fraction, split, nonempty, digits⟩

/-- A text that is neither is no numeral. -/
theorem Numeral.value?_eq_none (noDigits : ¬ AllDigits text)
    (noPoint : ¬ ∃ whole fraction, Pointed text whole fraction) :
    Numeral.value? text = none := by
  unfold Numeral.value? Numeral.valueOfChars
  split
  · rfl
  next shaped =>
    simp only [Bool.or_eq_true, Bool.not_eq_true', List.isEmpty_iff, not_or, Bool.not_eq_false] at shaped
    obtain ⟨parts, nonempty⟩ := shaped
    have each := List.all_eq_true.mp parts
    split
    next none =>
      have point : '.' ∉ text.toList := List.count_eq_zero.mp none
      have digits : ∀ c ∈ text.toList, c.isDigit = true := by
        intro c member
        rcases Numeral.isPart_iff.mp (each c member) with digit | rfl
        · exact digit
        · exact absurd member point
      refine absurd ⟨?_, List.all_eq_true.mpr digits⟩ noDigits
      intro empty
      exact nonempty (by rw [empty]; rfl)
    next once => exact absurd (exists_pointed each nonempty once) noPoint
    · rfl

/-! ### The text of an integer -/

private theorem allDigits_repr (n : Nat) : AllDigits n.repr := by
  rw [AllDigits, Nat.toList_repr]
  exact ⟨Nat.toDigits_ne_nil, List.all_eq_true.mpr fun c => Nat.isDigit_of_mem_toDigits (by decide) (by decide)⟩

private theorem ofDigits_repr (n : Nat) : Decimal.ofDigits n.repr.toList = n := by
  rw [Nat.toList_repr]
  exact Nat.ofDigitChars_ten_toDigits

private theorem toInt_ofNat_of_fits {k : Nat} (fits : k ≤ Value.largestInt) : (Int64.ofNat k).toInt = k :=
  Int64.toInt_ofNat_of_lt (Nat.lt_of_le_of_lt fits (by decide))

/-- An integer that is not negative is read back from its text. -/
theorem Numeral.value?_text {n : Int64} (least : 0 ≤ n) : Numeral.value? (Value.int n).text = some (.int n) := by
  have clamped : 0 ≤ n.toInt := Int64.le_iff_toInt_le.mp least
  obtain ⟨k, same⟩ := Int.eq_ofNat_of_zero_le clamped
  have fits : k ≤ Value.largestInt := by
    have most : n.toInt ≤ Value.largestInt := Int64.toInt_le n
    omega
  have text : (Value.int n).text = k.repr := by
    rw [Value.text, same]
    rfl
  have number : Int64.ofNat k = n := Int64.toInt_inj.mp ((toInt_ofNat_of_fits fits).trans same.symm)
  rw [text, (allDigits_repr k).value?_eq, ofDigits_repr, if_pos fits, number]

/-! ### The reader -/

namespace Numeral

/-- A text is digits, digits with a point, or no numeral. -/
theorem shapes (text : String) :
    AllDigits text ∨ (∃ whole fraction, Pointed text whole fraction) ∨
      (¬ AllDigits text ∧ ¬ ∃ whole fraction, Pointed text whole fraction) := by
  by_cases digits : AllDigits text
  · exact .inl digits
  · by_cases pointed : ∃ whole fraction, Pointed text whole fraction
    · exact .inr (.inl pointed)
    · exact .inr (.inr ⟨digits, pointed⟩)

private theorem value?_eq_some_int_iff {n : Int64} :
    value? text = some (.int n) ↔
      AllDigits text ∧ Decimal.ofDigits text.toList ≤ Value.largestInt ∧
        n.toInt = Decimal.ofDigits text.toList := by
  constructor
  · intro read
    rcases shapes text with digits | ⟨whole, fraction, pointed⟩ | ⟨noDigits, noPoint⟩
    · rw [digits.value?_eq] at read
      split at read
      next fits =>
        obtain rfl := Value.int.inj (Option.some.inj read)
        exact ⟨digits, fits, toInt_ofNat_of_fits fits⟩
      · cases read
    · rw [pointed.value?_eq] at read
      cases read
    · rw [value?_eq_none noDigits noPoint] at read
      cases read
  · rintro ⟨digits, fits, number⟩
    have same : n = Int64.ofNat _ := Int64.toInt_inj.mp (number.trans (toInt_ofNat_of_fits fits).symm)
    rw [digits.value?_eq, if_pos fits, same]

private theorem value?_eq_some_float_iff {x : Float} :
    value? text = some (.float x) ↔
      (∃ whole fraction, Pointed text whole fraction) ∧ Decimal.readFloat text = some x := by
  constructor
  · intro read
    rcases shapes text with digits | ⟨whole, fraction, pointed⟩ | ⟨noDigits, noPoint⟩
    · rw [digits.value?_eq] at read
      split at read <;> cases read
    · rw [pointed.value?_eq] at read
      refine ⟨⟨whole, fraction, pointed⟩, ?_⟩
      rw [pointed.readFloat_eq, Value.float.inj (Option.some.inj read)]
    · rw [value?_eq_none noDigits noPoint] at read
      cases read
  · rintro ⟨⟨whole, fraction, pointed⟩, read⟩
    rw [pointed.readFloat_eq] at read
    rw [pointed.value?_eq, Option.some.inj read]

private theorem value?_eq_none_iff :
    value? text = none ↔
      ¬ (AllDigits text ∧ Decimal.ofDigits text.toList ≤ Value.largestInt) ∧
        ¬ ∃ whole fraction, Pointed text whole fraction := by
  constructor
  · intro none
    constructor
    · rintro ⟨digits, fits⟩
      rw [digits.value?_eq, if_pos fits] at none
      cases none
    · rintro ⟨whole, fraction, pointed⟩
      rw [pointed.value?_eq] at none
      cases none
  · rintro ⟨notInt, noPoint⟩
    by_cases digits : AllDigits text
    · rw [digits.value?_eq, if_neg fun fits => notInt ⟨digits, fits⟩]
    · exact value?_eq_none digits noPoint

/-- A text is an integer if it is digits, with any zeros in front, whose number fits 64 bits; it is a float if it is
digits with one point, and then the double is the one that the general reader of decimal text gives, which reads every
such text; and it is no numeral otherwise. So the text of an integer that is not negative is read as that integer. -/
theorem value?_grammar :
    (∀ text : String,
      (∀ n : Int64, value? text = some (.int n) ↔
        AllDigits text ∧ Decimal.ofDigits text.toList ≤ Value.largestInt ∧
          n.toInt = Decimal.ofDigits text.toList) ∧
      (∀ x : Float, value? text = some (.float x) ↔
        (∃ whole fraction, Pointed text whole fraction) ∧ Decimal.readFloat text = some x) ∧
      ((∃ whole fraction, Pointed text whole fraction) → (Decimal.readFloat text).isSome = true) ∧
      (value? text = none ↔
        ¬ (AllDigits text ∧ Decimal.ofDigits text.toList ≤ Value.largestInt) ∧
          ¬ ∃ whole fraction, Pointed text whole fraction)) ∧
    ∀ n : Int64, 0 ≤ n → value? (Value.int n).text = some (.int n) := by
  refine ⟨fun text => ⟨fun n => value?_eq_some_int_iff, fun x => value?_eq_some_float_iff, ?accepted,
    value?_eq_none_iff⟩, fun n => value?_text⟩
  rintro ⟨whole, fraction, pointed⟩
  rw [pointed.readFloat_eq]
  rfl

/-- The largest integer is read with zeros in front of it, and one more is no numeral. A point may be the last
character. -/
theorem value?_grammar_boundary :
    value? "009223372036854775807" = some (.int 9223372036854775807) ∧ value? "9223372036854775808" = none ∧
      Pointed "2." ['2'] [] ∧ (value? "2.").isSome = true ∧
      (0 : Int64) ≤ 42 ∧ value? (Value.int 42).text = some (.int 42) := by
  obtain ⟨reads, back⟩ := value?_grammar
  have pointed : Pointed "2." ['2'] [] := ⟨by decide, by decide, List.all_eq_true.mp (by decide)⟩
  refine ⟨?_, ?_, pointed, ?_, by decide, back 42 (by decide)⟩
  · exact ((reads _).1 _).mpr (by decide +kernel)
  · refine (reads _).2.2.2.mpr ⟨by decide +kernel, ?_⟩
    rintro ⟨whole, fraction, split, _⟩
    have point : '.' ∈ "9223372036854775808".toList := by simp [split]
    exact absurd point (by decide)
  · have accepted := (reads "2.").2.2.1 ⟨_, _, pointed⟩
    obtain ⟨x, read⟩ := Option.isSome_iff_exists.mp accepted
    rw [((reads "2.").2.1 x).mpr ⟨⟨_, _, pointed⟩, read⟩]
    rfl

end Numeral

end ScriptCheck
