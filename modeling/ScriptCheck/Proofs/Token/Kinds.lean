import ScriptCheck.Proofs.Token.Spans

/-! # The kind of a text

What a token is, is written in its text: a text that begins with a quote is a string literal, and any other is what
the table of kinds says (`kind_of_mem_tokenize`). So tokens with one text are of one kind, also in different
sources, and a name is never spelled like a token that is no name (`text_ne_of_isName`).
-/

namespace ScriptCheck

/-- The kind that the first character of a text and the text itself tell. -/
def Kind.told (text : String) : Kind :=
  if text.toList.head? = some '"' then .stringLiteral else .ofText text

/-- A lexeme that is a token is a string literal exactly if it begins with a quote. -/
theorem Lexeme.Cuts.kind_eq {cs rest : List Char} {lexeme : Lexeme} (cuts : Cuts cs lexeme rest)
    (shown : lexeme.isToken = true) : lexeme.kind = Kind.told (String.ofList lexeme.chars) := by
  unfold Kind.told
  rw [String.toList_ofList]
  cases cuts with
  | quote => exact (if_pos rfl).symm
  | @mark c _ mark =>
    have plain : c ≠ '"' := by
      rintro rfl
      simp at mark
    exact (if_neg (by simpa [chars] using plain)).symm
  | @word c cs rest runs =>
    have plain : c ≠ '"' := by
      rintro rfl
      exact runs [] _ cs rfl (.inr (.inl rfl))
    exact (if_neg (by simpa [chars] using plain)).symm
  | blank | lineComment | blockComment | openComment | openQuote | openWord => cases shown

theorem Lexeme.Splits.exists_cuts {cs : List Char} {lexeme : Lexeme} {front back : List Lexeme}
    (splits : Splits cs (front ++ lexeme :: back)) : ∃ upTo rest, Cuts upTo lexeme rest := by
  induction front generalizing cs with
  | nil =>
    cases splits with
    | cons cuts _ => exact ⟨_, _, cuts⟩
  | cons first front ih =>
    cases splits with
    | cons _ later => exact ih later

/-- What a token is, is written in its text. -/
theorem kind_of_mem_tokenize {source : String} {t : Token} (member : t ∈ tokenize source) :
    t.kind = Kind.told t.text := by
  obtain ⟨place, within, shows⟩ := exists_place_of_mem (shows_tokenize source) member
  obtain ⟨placed, shown⟩ := List.mem_filter.mp within
  obtain ⟨front, back, whole, _⟩ := Lexeme.exists_of_mem_placed placed
  have splits := splits_source source
  rw [whole] at splits
  obtain ⟨_, _, cuts⟩ := splits.exists_cuts
  rw [shows.kind, shows.text]
  exact cuts.kind_eq shown

/-- A name is never spelled like a token that is no name. -/
theorem text_ne_of_isName {source other : String} {t u : Token} (first : t ∈ tokenize source)
    (second : u ∈ tokenize other) (name : t.isName = true) (noName : u.isName = false) : t.text ≠ u.text := by
  intro same
  have kinds : t.kind = u.kind := by
    rw [kind_of_mem_tokenize first, kind_of_mem_tokenize second, same]
  have alike : t.isName = u.isName := by
    simp only [Token.isName, Token.isNumber, Token.number?, kinds, same]
  rw [name, noName] at alike
  cases alike

end ScriptCheck
