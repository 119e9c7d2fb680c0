import ScriptCheck.Operation
import ScriptCheck.Proofs.Text.Quoting

/-! # Telling operations apart

An operation is listed with its arguments, integers in digits and strings in quotes. Whatever a string holds, be it a
quote, a comma or what looks like another argument, the listing can be taken apart in one way only, so two operations
of one kind that are listed alike have the same arguments (`Operation.text_determines_args`).
-/

namespace ScriptCheck

def IsIntPart (c : Char) : Prop := c = '-' ∨ c.isDigit = true

instance (c : Char) : Decidable (IsIntPart c) := inferInstanceAs (Decidable (c = '-' ∨ c.isDigit = true))

private theorem IsIntPart.visible {c : Char} (part : IsIntPart c) : Text.isInvisible c = false := by
  apply Text.visible_of_isPlain
  rcases part with rfl | digit
  · decide
  · simp only [Char.isDigit, Bool.and_eq_true, decide_eq_true_eq] at digit
    simp only [Text.isPlain, Bool.and_eq_true, decide_eq_true_eq, Char.le_def]
    exact ⟨UInt32.le_trans (by decide) digit.1, UInt32.le_trans digit.2 (by decide)⟩

/-! ### Integers -/

private theorem isDigit_of_mem_repr {k : Nat} : ∀ c ∈ k.repr.toList, c.isDigit = true := by
  intro c member
  rw [Nat.toList_repr] at member
  exact Nat.isDigit_of_mem_toDigits (by decide) (by decide) member

private theorem repr_inj {j k : Nat} (same : j.repr = k.repr) : j = k := by
  have digits := congrArg String.toList same
  rw [Nat.toList_repr, Nat.toList_repr] at digits
  have numbers := congrArg (fun cs => Nat.ofDigitChars 10 cs 0) digits
  simpa only [Nat.ofDigitChars_ten_toDigits] using numbers

/-- A sign is no digit, so a number below zero is not written like one that is not. -/
theorem sign_append_ne_repr (j k : Nat) : "-" ++ j.repr ≠ k.repr := by
  intro same
  have sign : '-' ∈ k.repr.toList := by
    rw [← same, String.toList_append]
    exact List.mem_cons_self ..
  exact absurd (isDigit_of_mem_repr _ sign) (by decide)

namespace Value

private theorem text_int_eq (n : Int64) :
    (int n).text = if 0 ≤ n.toInt then n.toInt.toNat.repr else "-" ++ (-n.toInt).toNat.repr := by
  rw [text, Int.toString_eq_repr, Int.repr_eq_if]

private theorem isIntPart_of_mem_text {n : Int64} : ∀ c ∈ (int n).text.toList, IsIntPart c := by
  intro c member
  rw [text_int_eq] at member
  split at member
  · exact .inr (isDigit_of_mem_repr c member)
  · rw [String.toList_append] at member
    rcases List.mem_append.mp member with sign | digit
    · exact .inl (List.mem_singleton.mp sign)
    · exact .inr (isDigit_of_mem_repr c digit)

private theorem text_int_ne_nil (n : Int64) : (int n).text.toList ≠ [] := by
  rw [text_int_eq]
  split
  · rw [Nat.toList_repr]
    exact Nat.toDigits_ne_nil
  · simp

private theorem text_int_inj {m n : Int64} (same : (int m).text = (int n).text) : m = n := by
  rw [text_int_eq, text_int_eq] at same
  apply Int64.toInt_inj.mp
  split at same <;> split at same
  · have numbers := repr_inj same
    omega
  · exact absurd same.symm (sign_append_ne_repr _ _)
  · exact absurd same (sign_append_ne_repr _ _)
  · have texts := congrArg String.toList same
    rw [String.toList_append, String.toList_append] at texts
    have numbers := repr_inj (String.toList_inj.mp (List.append_cancel_left texts))
    omega

/-! ### One argument -/

private theorem listed_int (n : Int64) : (int n).listed = (int n).text := rfl

private theorem listed_string (s : String) :
    (string s).listed.toList = Text.quotedChars s.toList := String.toList_ofList

/-- An argument begins with a character of an integer or with a quote. -/
theorem exists_head_listed {v : Value} (exact : v.type ≠ .float) :
    ∃ first rest, v.listed.toList = first :: rest ∧ (IsIntPart first ∨ first = '"') := by
  cases v with
  | int n =>
    obtain ⟨first, rest, text⟩ := List.exists_cons_of_ne_nil (text_int_ne_nil n)
    exact ⟨first, rest, text, .inl (isIntPart_of_mem_text first (text ▸ List.mem_cons_self ..))⟩
  | float => exact absurd rfl exact
  | string s => exact ⟨'"', _, listed_string s, .inr rfl⟩

/-- An integer is not listed like a string. -/
theorem listed_int_append_ne {n : Int64} {s : String} {front back : List Char} :
    (int n).listed.toList ++ front ≠ (string s).listed.toList ++ back := by
  intro same
  obtain ⟨first, rest, text⟩ := List.exists_cons_of_ne_nil (text_int_ne_nil n)
  have quote : first = '"' := by
    rw [listed_string, listed_int, text] at same
    exact (List.cons.inj same).1
  have part := isIntPart_of_mem_text first (text ▸ List.mem_cons_self ..)
  subst quote
  exact absurd part (by decide)

/-- A listed argument tells where it ends, if no character of an integer is behind it, and which value it is. -/
theorem listed_append_inj {v w : Value} (exact : v.type ≠ .float) (alsoExact : w.type ≠ .float)
    {front back : List Char} (frontHead : ∀ c ∈ front.head?, ¬ IsIntPart c)
    (backHead : ∀ c ∈ back.head?, ¬ IsIntPart c)
    (same : v.listed.toList ++ front = w.listed.toList ++ back) : v = w ∧ front = back := by
  cases v with
  | int m =>
    cases w with
    | int n =>
      obtain ⟨texts, rest⟩ :=
        Text.append_inj_of_head isIntPart_of_mem_text isIntPart_of_mem_text frontHead backHead same
      exact ⟨congrArg int (text_int_inj (String.toList_inj.mp texts)), rest⟩
    | float => exact absurd rfl alsoExact
    | string => exact absurd same listed_int_append_ne
  | float => exact absurd rfl exact
  | string s =>
    cases w with
    | int => exact absurd same.symm listed_int_append_ne
    | float => exact absurd rfl alsoExact
    | string t =>
      rw [listed_string, listed_string] at same
      obtain ⟨chars, rest⟩ := Text.quotedChars_append_inj same
      exact ⟨congrArg string (String.toList_inj.mp chars), rest⟩

end Value

/-! ### Some arguments -/

/-- What is listed behind an argument: the other arguments, each behind a comma, and the closing parenthesis. -/
def listedBehind : List Value → List Char
  | [] => [')']
  | value :: rest => ',' :: ' ' :: (value.listed.toList ++ listedBehind rest)

def listedInside : List Value → List Char
  | [] => [')']
  | value :: rest => value.listed.toList ++ listedBehind rest

private theorem toList_intercalate_listed (args : List Value) :
    (", ".intercalate (args.map Value.listed)).toList ++ [')'] = listedInside args := by
  cases args with
  | nil => rfl
  | cons value rest =>
    induction rest generalizing value with
    | nil => simp [listedInside, listedBehind]
    | cons next rest ih =>
      simp only [List.map_cons] at ih ⊢
      rw [String.intercalate_cons_cons, String.toList_append, String.toList_append, List.append_assoc, ih]
      simp [listedInside, listedBehind]

private theorem head_listedBehind (args : List Value) : ∀ c ∈ (listedBehind args).head?, ¬ IsIntPart c := by
  intro c head part
  have mark : c = ')' ∨ c = ',' := by
    cases args with
    | nil => exact .inl (Option.some.inj head).symm
    | cons => exact .inr (Option.some.inj head).symm
  rcases mark with rfl | rfl
  · exact absurd part (by decide)
  · exact absurd part (by decide)

variable {args others : List Value}

private theorem listedBehind_inj (exact : ∀ value ∈ args, value.type ≠ .float)
    (alsoExact : ∀ value ∈ others, value.type ≠ .float) (same : listedBehind args = listedBehind others) :
    args = others := by
  induction args generalizing others with
  | nil =>
    cases others with
    | nil => rfl
    | cons => cases (List.cons.inj same).1
  | cons v args ih =>
    cases others with
    | nil => cases (List.cons.inj same).1
    | cons w others =>
      obtain ⟨vExact, argsExact⟩ := List.forall_mem_cons.mp exact
      obtain ⟨wExact, othersExact⟩ := List.forall_mem_cons.mp alsoExact
      have items := (List.cons.inj (List.cons.inj same).2).2
      obtain ⟨rfl, rest⟩ :=
        Value.listed_append_inj vExact wExact (head_listedBehind args) (head_listedBehind others) items
      rw [ih argsExact othersExact rest]

private theorem listed_append_ne_nil {v : Value} (exact : v.type ≠ .float) :
    listedInside (v :: args) ≠ listedInside [] := by
  intro same
  obtain ⟨first, rest, text, begins⟩ := Value.exists_head_listed exact
  have opened : v.listed.toList ++ listedBehind args = [')'] := same
  rw [text] at opened
  obtain rfl : first = ')' := (List.cons.inj opened).1
  rcases begins with part | quote
  · exact absurd part (by decide)
  · exact absurd quote (by decide)

private theorem listedInside_inj (exact : ∀ value ∈ args, value.type ≠ .float)
    (alsoExact : ∀ value ∈ others, value.type ≠ .float) (same : listedInside args = listedInside others) :
    args = others := by
  cases args with
  | nil =>
    cases others with
    | nil => rfl
    | cons w others => exact absurd same.symm (listed_append_ne_nil (alsoExact w (List.mem_cons_self ..)))
  | cons v args =>
    cases others with
    | nil => exact absurd same (listed_append_ne_nil (exact v (List.mem_cons_self ..)))
    | cons w others => exact listedBehind_inj exact alsoExact (congrArg (fun cs => ',' :: ' ' :: cs) same)

/-- Every argument is listed in one piece. -/
private theorem infix_listedBehind {v : Value} (member : v ∈ args) : v.listed.toList <:+: listedBehind args := by
  induction args with
  | nil => cases member
  | cons w args ih =>
    rcases List.mem_cons.mp member with rfl | later
    · exact ⟨[',', ' '], listedBehind args, rfl⟩
    · exact (ih later).trans ((List.suffix_append ..).trans (List.suffix_append [',', ' '] _)).isInfix

private theorem infix_listedInside {v : Value} (member : v ∈ args) : v.listed.toList <:+: listedInside args := by
  cases args with
  | nil => cases member
  | cons w args =>
    rcases List.mem_cons.mp member with rfl | later
    · exact (List.prefix_append ..).isInfix
    · exact (infix_listedBehind later).trans (List.suffix_append ..).isInfix

/-! ### The text of an operation -/

private theorem Value.visible_listed {v : Value} (exact : v.type ≠ .float) :
    ∀ c ∈ v.listed.toList, Text.isInvisible c = false := by
  intro c member
  cases v with
  | int n => exact (isIntPart_of_mem_text c member).visible
  | float => exact absurd rfl exact
  | string s =>
    rw [listed_string] at member
    exact Text.visible_quotedChars c member

private theorem visible_listedBehind (exact : ∀ value ∈ args, value.type ≠ .float) :
    ∀ c ∈ listedBehind args, Text.isInvisible c = false := by
  induction args with
  | nil =>
    intro c member
    rw [List.mem_singleton.mp member]
    exact Text.visible_of_isPlain (by decide)
  | cons v args ih =>
    obtain ⟨vExact, argsExact⟩ := List.forall_mem_cons.mp exact
    intro c member
    rcases List.mem_cons.mp member with rfl | member
    · exact Text.visible_of_isPlain (by decide)
    rcases List.mem_cons.mp member with rfl | member
    · exact Text.visible_of_isPlain (by decide)
    rcases List.mem_append.mp member with inside | behind
    · exact Value.visible_listed vExact c inside
    · exact ih argsExact c behind

private theorem visible_listedInside (exact : ∀ value ∈ args, value.type ≠ .float) :
    ∀ c ∈ listedInside args, Text.isInvisible c = false := by
  cases args with
  | nil => exact visible_listedBehind exact
  | cons v args =>
    intro c member
    exact visible_listedBehind exact c (List.mem_cons_of_mem _ (List.mem_cons_of_mem _ member))

private theorem OperationId.visible_name (id : OperationId) : ∀ c ∈ id.name.toList, Text.isInvisible c = false := by
  have plain : id.name.toList.all Text.isPlain = true := by cases id; decide
  exact fun c member => Text.visible_of_isPlain (List.all_eq_true.mp plain c member)

namespace Operation

private theorem toList_text (operation : Operation) :
    operation.text.toList = operation.id.name.toList ++ '(' :: listedInside operation.args := by
  have joined : operation.text =
      operation.id.name ++ ("(" ++ (", ".intercalate (operation.args.map Value.listed) ++ ")")) := by
    simp only [text, String.append_assoc, toString]
  rw [joined, String.toList_append, String.toList_append, String.toList_append, ← toList_intercalate_listed]
  rfl

variable {first second : Operation}

/-- Two operations of one kind on integers and strings are listed alike only if their arguments are the same, whatever
the strings hold. A string stands there between quotes, where a quote, a backslash and what cannot be shown are escaped,
so every character of such a listing can be shown. -/
theorem text_determines_args (same : first.id = second.id) (exact : ∀ value ∈ first.args, value.type ≠ .float)
    (alsoExact : ∀ value ∈ second.args, value.type ≠ .float) :
    (first.text = second.text ↔ first.args = second.args) ∧
      (∀ s, .string s ∈ first.args → '"' :: s.toList.flatMap Text.quotedChar ++ ['"'] <:+: first.text.toList) ∧
      (∀ c, Text.Spells c (Text.quotedChar c)) ∧
      ∀ c ∈ first.text.toList, Text.isInvisible c = false := by
  refine ⟨⟨fun texts => ?back, fun args => ?forth⟩, fun s member => ?quoted, Text.spells_quotedChar, ?visible⟩
  case back =>
    have chars := congrArg String.toList texts
    rw [toList_text, toList_text, same] at chars
    have inside := (List.cons.inj (List.append_cancel_left chars)).2
    exact listedInside_inj exact alsoExact inside
  case forth => rw [text, text, same, args]
  case quoted =>
    have listed := infix_listedInside member
    rw [Value.listed_string] at listed
    rw [toList_text]
    exact listed.trans ((List.suffix_cons ..).trans (List.suffix_append ..)).isInfix
  case visible =>
    intro c member
    rw [toList_text] at member
    rcases List.mem_append.mp member with name | rest
    · exact first.id.visible_name c name
    rcases List.mem_cons.mp rest with rfl | inside
    · exact Text.visible_of_isPlain (by decide)
    · exact visible_listedInside exact c inside

/-- Two arguments are not listed like one that holds their quotes and the comma between them. -/
theorem text_determines_args_quotes :
    let two : Operation := ⟨.messageBox, [.string "a", .string "b"]⟩
    let one : Operation := ⟨.messageBox, [.string "a\", \"b"]⟩
    two.id = one.id ∧ two.text ≠ one.text ∧
      '"' :: "a\", \"b".toList.flatMap Text.quotedChar ++ ['"'] <:+: one.text.toList ∧
      ∀ c ∈ one.text.toList, Text.isInvisible c = false := by
  intro two one
  have twoExact : ∀ value ∈ two.args, value.type ≠ .float := by decide
  have oneExact : ∀ value ∈ one.args, value.type ≠ .float := by decide
  have same : one.id = two.id := rfl
  obtain ⟨determined, quoted, _, visible⟩ := text_determines_args same oneExact twoExact
  refine ⟨same.symm, fun texts => ?_, quoted _ (List.mem_singleton_self _), visible⟩
  exact absurd (determined.mp texts.symm) (by decide)

end Operation

end ScriptCheck
