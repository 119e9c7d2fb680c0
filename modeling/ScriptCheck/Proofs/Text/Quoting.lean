import ScriptCheck.Text.Quoted

/-! # Telling quoted texts apart

Between the quotes a character stands for itself, as an escape of two characters, or as its code point. No such
spelling begins another one, and none begins with a quote, so a quoted text tells where it ends and what it quotes,
whatever is written behind it (`quotedChars_append_inj`). Nothing in it has to be escaped again
(`visible_quotedChars`).
-/

namespace ScriptCheck.Text

/-- Two texts are cut alike where each is cut in front of the first character without a property. -/
theorem append_inj_of_head {p : Char → Prop} {first second front back : List Char}
    (firstAll : ∀ c ∈ first, p c) (secondAll : ∀ c ∈ second, p c) (frontHead : ∀ c ∈ front.head?, ¬ p c)
    (backHead : ∀ c ∈ back.head?, ¬ p c) (same : first ++ front = second ++ back) :
    first = second ∧ front = back := by
  induction first generalizing second with
  | nil =>
    cases second with
    | nil => exact ⟨rfl, same⟩
    | cons d second =>
      have head : front.head? = some d := congrArg List.head? same
      exact absurd (secondAll d (List.mem_cons_self ..)) (frontHead d head)
  | cons c first ih =>
    cases second with
    | nil =>
      have head : back.head? = some c := congrArg List.head? same.symm
      exact absurd (firstAll c (List.mem_cons_self ..)) (backHead c head)
    | cons d second =>
      obtain ⟨rfl, later⟩ := List.cons.inj same
      obtain ⟨rfl, rest⟩ := ih (fun x member => firstAll x (List.mem_cons_of_mem _ member))
        (fun x member => secondAll x (List.mem_cons_of_mem _ member)) later
      exact ⟨rfl, rest⟩

/-! ### Code points in hexadecimal -/

private theorem exists_digitChar_of_mem {n : Nat} {c : Char} (member : c ∈ Nat.toDigits 16 n) :
    ∃ d < 16, c = Nat.digitChar d := by
  induction n using Nat.strongRecOn with
  | ind n ih =>
    rw [Nat.toDigits_eq_if (by decide)] at member
    split at member
    next small => exact ⟨n, small, List.mem_singleton.mp member⟩
    next large =>
      rcases List.mem_append.mp member with front | last
      · exact ih (n / 16) (by omega) front
      · exact ⟨n % 16, Nat.mod_lt _ (by decide), List.mem_singleton.mp last⟩

private theorem digitChar_inj {a b : Nat} (small : a < 16) (alsoSmall : b < 16)
    (same : Nat.digitChar a = Nat.digitChar b) : a = b := by
  have each : ∀ a < 16, ∀ b < 16, Nat.digitChar a = Nat.digitChar b → a = b := by decide
  exact each a small b alsoSmall same

private theorem singleton_ne_toDigits_append (n : Nat) (a b : Char) : [a] ≠ Nat.toDigits 16 n ++ [b] := by
  intro same
  have lengths := congrArg List.length same
  have long : 0 < (Nat.toDigits 16 n).length := Nat.length_toDigits_pos
  simp only [List.length_append, List.length_cons, List.length_nil] at lengths
  omega

private theorem toDigits_inj {m n : Nat} (same : Nat.toDigits 16 m = Nat.toDigits 16 n) : m = n := by
  induction m using Nat.strongRecOn generalizing n with
  | ind m ih =>
    rw [Nat.toDigits_eq_if (by decide), Nat.toDigits_eq_if (n := n) (by decide)] at same
    split at same <;> split at same
    next small alsoSmall => exact digitChar_inj small alsoSmall (List.singleton_inj.mp same)
    · exact (singleton_ne_toDigits_append _ _ _ same).elim
    · exact (singleton_ne_toDigits_append _ _ _ same.symm).elim
    next large alsoLarge =>
      obtain ⟨front, last⟩ := List.append_inj' same rfl
      have quotient := ih (m / 16) (by omega) front
      have remainder := digitChar_inj (Nat.mod_lt _ (by decide)) (Nat.mod_lt _ (by decide)) (List.singleton_inj.mp last)
      omega

private theorem ne_brace_of_mem_toDigits {n : Nat} : ∀ c ∈ Nat.toDigits 16 n, c ≠ '}' := by
  intro c member
  obtain ⟨d, small, rfl⟩ := exists_digitChar_of_mem member
  have each : ∀ d < 16, Nat.digitChar d ≠ '}' := by decide
  exact each d small

/-- The brace behind a code point ends it. -/
theorem codePoint_append_inj {c d : Char} {front back : List Char}
    (same : codePoint c ++ front = codePoint d ++ back) : c = d ∧ front = back := by
  have digits : Nat.toDigits 16 c.toNat ++ '}' :: front = Nat.toDigits 16 d.toNat ++ '}' :: back := by
    simpa [codePoint] using same
  obtain ⟨number, rest⟩ := append_inj_of_head ne_brace_of_mem_toDigits ne_brace_of_mem_toDigits (by simp) (by simp)
    digits
  exact ⟨Char.toNat_inj.mp (toDigits_inj number), (List.cons.inj rest).2⟩

/-! ### Spellings -/

/-- The characters that are written as a backslash and one more character, with that character. -/
def escapes : List (Char × Char) :=
  [('"', '"'), ('\\', '\\'), ('\n', 'n'), ('\r', 'r'), ('\t', 't'), ('\x00', '0')]

/-- How a character is written between the quotes. -/
inductive Spells (c : Char) : List Char → Prop
  | escaped {letter : Char} (listed : (c, letter) ∈ escapes) : Spells c ['\\', letter]
  | coded : Spells c (codePoint c)
  | plain (noQuote : c ≠ '"') (noBackslash : c ≠ '\\') (visible : isInvisible c = false) : Spells c [c]

theorem spells_quotedChar (c : Char) : Spells c (quotedChar c) := by
  unfold quotedChar
  split
  case h_7 noQuote noBackslash _ _ _ _ =>
    split
    · exact .coded
    next visible => exact .plain noQuote noBackslash (by simpa using visible)
  all_goals exact .escaped (by decide)

/-- No two characters are escaped by the same one, and none by the one that begins a code point. -/
theorem escapes_inj {c d letter : Char} (listed : (c, letter) ∈ escapes) (alsoListed : (d, letter) ∈ escapes) :
    c = d := by
  have each : ∀ first ∈ escapes, ∀ second ∈ escapes, first.2 = second.2 → first.1 = second.1 := by decide
  exact each _ listed _ alsoListed rfl

private theorem ne_u_of_mem_escapes {c letter : Char} (listed : (c, letter) ∈ escapes) : letter ≠ 'u' := by
  have each : ∀ entry ∈ escapes, entry.2 ≠ 'u' := by decide
  exact each _ listed

namespace Spells

variable {c d : Char} {s t front back : List Char}

/-- A spelling begins with a backslash or is the character itself, which is no quote. -/
theorem exists_head (spells : Spells c s) : ∃ first rest, s = first :: rest ∧ first ≠ '"' := by
  cases spells with
  | escaped => exact ⟨_, _, rfl, by decide⟩
  | coded => exact ⟨_, _, rfl, by decide⟩
  | plain noQuote => exact ⟨_, _, rfl, noQuote⟩

/-- A spelling tells where it ends and which character it spells. -/
theorem append_inj (spells : Spells c s) (alsoSpells : Spells d t) (same : s ++ front = t ++ back) :
    c = d ∧ front = back := by
  cases spells with
  | escaped listed =>
    cases alsoSpells with
    | escaped alsoListed =>
      obtain ⟨rfl, rfl⟩ : _ ∧ front = back := by simpa using same
      exact ⟨escapes_inj listed alsoListed, rfl⟩
    | coded =>
      obtain ⟨letter, _⟩ : _ = 'u' ∧ _ := by simpa [codePoint] using same
      exact absurd letter (ne_u_of_mem_escapes listed)
    | plain _ noBackslash =>
      obtain ⟨rfl, _⟩ := List.cons.inj same
      exact absurd rfl noBackslash
  | coded =>
    cases alsoSpells with
    | escaped alsoListed =>
      obtain ⟨letter, _⟩ : 'u' = _ ∧ _ := by simpa [codePoint] using same
      exact absurd letter.symm (ne_u_of_mem_escapes alsoListed)
    | coded => exact codePoint_append_inj same
    | plain _ noBackslash =>
      obtain ⟨rfl, _⟩ := List.cons.inj same
      exact absurd rfl noBackslash
  | plain _ noBackslash =>
    cases alsoSpells with
    | escaped =>
      obtain ⟨rfl, _⟩ := List.cons.inj same
      exact absurd rfl noBackslash
    | coded =>
      obtain ⟨rfl, _⟩ := List.cons.inj same
      exact absurd rfl noBackslash
    | plain => exact List.cons.inj same

end Spells

/-! ### Quoted texts -/

/-- Up to the closing quote the spellings follow one another. -/
theorem spelled_append_inj {cs ds front back : List Char}
    (same : cs.flatMap quotedChar ++ '"' :: front = ds.flatMap quotedChar ++ '"' :: back) :
    cs = ds ∧ front = back := by
  induction cs generalizing ds with
  | nil =>
    cases ds with
    | nil => exact ⟨rfl, (List.cons.inj same).2⟩
    | cons d ds =>
      obtain ⟨first, rest, begins, noQuote⟩ := (spells_quotedChar d).exists_head
      rw [List.flatMap_cons, begins] at same
      exact absurd (List.cons.inj same).1.symm noQuote
  | cons c cs ih =>
    cases ds with
    | nil =>
      obtain ⟨first, rest, begins, noQuote⟩ := (spells_quotedChar c).exists_head
      rw [List.flatMap_cons, begins] at same
      exact absurd (List.cons.inj same).1 noQuote
    | cons d ds =>
      rw [List.flatMap_cons, List.flatMap_cons, List.append_assoc, List.append_assoc] at same
      obtain ⟨rfl, later⟩ := (spells_quotedChar c).append_inj (spells_quotedChar d) same
      obtain ⟨rfl, rest⟩ := ih later
      exact ⟨rfl, rest⟩

/-- A quoted text tells where it ends and what it quotes. -/
theorem quotedChars_append_inj {cs ds front back : List Char}
    (same : quotedChars cs ++ front = quotedChars ds ++ back) : cs = ds ∧ front = back := by
  apply spelled_append_inj
  simpa [quotedChars] using same

theorem visible_of_isPlain {c : Char} (plain : isPlain c = true) : isInvisible c = false := by
  rw [isInvisible, plain]
  rfl

/-- The spelling of a character can be shown. -/
theorem Spells.visible {c : Char} {s : List Char} (spells : Spells c s) : ∀ x ∈ s, isInvisible x = false := by
  intro x member
  cases spells with
  | escaped listed =>
    have each : ∀ entry ∈ escapes, isPlain entry.2 = true := by decide
    rcases List.mem_cons.mp member with rfl | letter
    · exact visible_of_isPlain (by decide)
    · rw [List.mem_singleton.mp letter]
      exact visible_of_isPlain (each _ listed)
  | coded =>
    have each : ∀ d < 16, isPlain (Nat.digitChar d) = true := by decide
    apply visible_of_isPlain
    simp only [codePoint, List.mem_append, List.mem_cons, List.not_mem_nil, or_false] at member
    rcases member with ((rfl | rfl | rfl) | digit) | rfl
    · decide
    · decide
    · decide
    · obtain ⟨d, small, rfl⟩ := exists_digitChar_of_mem digit
      exact each d small
    · decide
  | plain _ _ visible =>
    rw [List.mem_singleton.mp member]
    exact visible

/-- Every character of a quoted text can be shown. -/
theorem visible_quotedChars {cs : List Char} : ∀ x ∈ quotedChars cs, isInvisible x = false := by
  intro x member
  simp only [quotedChars, List.mem_append, List.mem_cons, List.mem_flatMap, List.not_mem_nil, or_false] at member
  rcases member with (rfl | ⟨c, _, spelled⟩) | rfl
  · exact visible_of_isPlain (by decide)
  · exact (spells_quotedChar c).visible x spelled
  · exact visible_of_isPlain (by decide)

end ScriptCheck.Text
