import ScriptCheck.Proofs.Token.Spans

/-! # Writing tokens down

The texts of the tokens of a source, each followed by a space, are a source with the same tokens: the lexemes that
are no tokens only keep the others apart, and a space does so too (`tokenize_written`). What follows a mark or a
string literal does not matter to it, and a word stops at a space wherever it goes on.
-/

namespace ScriptCheck

/-- The texts of tokens, each followed by a space. -/
def written : List Token → String
  | [] => ""
  | t :: ts => t.text ++ " " ++ written ts

/-- What a token is and the block it stands in, without its line and its bytes. -/
def Token.outline (t : Token) : Kind × String × Scope := (t.kind, t.text, t.scope)

/-! ### Lexemes kept apart by spaces -/

namespace Lexeme

/-- The lexemes that are tokens, each followed by a space. -/
def spaced : List Lexeme → List Lexeme
  | [] => []
  | lexeme :: rest => if lexeme.isToken then lexeme :: .blank ' ' :: spaced rest else spaced rest

variable {cs rest : List Char} {lexeme : Lexeme} {lexemes : List Lexeme}

private theorem spaced_of_shown (shown : lexeme.isToken = true) :
    spaced (lexeme :: lexemes) = lexeme :: .blank ' ' :: spaced lexemes := by
  rw [spaced, if_pos shown]

private theorem spaced_of_silent (silent : lexeme.isToken = false) : spaced (lexeme :: lexemes) = spaced lexemes := by
  rw [spaced, silent, if_neg Bool.false_ne_true]

private theorem stops_space (rest : List Char) : Stops (' ' :: rest) := .inl (List.mem_cons_self ..)

/-- A character stops a word before a space only if it does so before everything else. -/
theorem Stops.before_space {c : Char} {behind : List Char} (stops : Stops (c :: ' ' :: behind))
    (rest : List Char) : Stops (c :: rest) := by
  rcases stops with blank | quote | mark | ⟨_, next⟩
  · exact .inl blank
  · exact .inr (.inl quote)
  · exact .inr (.inr (.inl mark))
  · simp at next

/-- A token is cut off before a space as it is before the text behind it. -/
theorem Cuts.before_space (cuts : Cuts cs lexeme rest) (shown : lexeme.isToken = true) (behind : List Char) :
    Cuts (lexeme.chars ++ ' ' :: behind) lexeme (' ' :: behind) := by
  cases cuts with
  | quote inside ends =>
    simp only [chars, List.cons_append, List.append_assoc]
    exact .quote inside ends
  | mark mark => exact .mark mark
  | word runs _ => exact .word (runs.imp fun _ stops => stops.before_space rest) (stops_space behind)
  | blank | lineComment | blockComment | openComment | openQuote | openWord => cases shown

/-- The tokens of a split, each followed by a space, are a split. -/
theorem Splits.spaced (splits : Splits cs lexemes) :
    Splits ((spaced lexemes).flatMap chars) (spaced lexemes) := by
  induction splits with
  | nil => exact .nil
  | @cons _ _ lexeme _ cuts _ ih =>
    cases shown : lexeme.isToken with
    | true =>
      rw [spaced_of_shown shown]
      exact .cons (cuts.before_space shown _) (.cons (.blank (List.mem_cons_self ..)) ih)
    | false =>
      rw [spaced_of_silent shown]
      exact ih

end Lexeme

/-! ### Places that differ in bytes and lines -/

variable {place other : Cursor} {lexeme : Lexeme}

namespace Cursor

private theorem scope_after_congr (same : place.scope = other.scope) :
    (place.after lexeme).scope = (other.after lexeme).scope := by
  cases lexeme with
  | mark c => exact congrArg (fun scope => scope.after c) same
  | blank | lineComment | blockComment | quote | word | unfinished => exact same

private theorem scope_after_of_silent (silent : lexeme.isToken = false) : (place.after lexeme).scope = place.scope := by
  cases lexeme with
  | quote | mark | word => cases silent
  | blank | lineComment | blockComment | unfinished => rfl

private theorem outline_token? (same : place.scope = other.scope) :
    (place.token? lexeme).toList.map Token.outline = (other.token? lexeme).toList.map Token.outline := by
  cases lexeme with
  | quote | mark | word => simp [token?, wordToken, Token.outline, same]
  | blank | lineComment | blockComment | unfinished => rfl

end Cursor

/-- Tokens kept apart by spaces stand in the blocks in which they stood before. -/
theorem outline_placeTokens_spaced (same : place.scope = other.scope) (lexemes : List Lexeme) :
    (placeTokens place (Lexeme.spaced lexemes)).map Token.outline =
      (placeTokens other lexemes).map Token.outline := by
  induction lexemes generalizing place other with
  | nil => rfl
  | cons lexeme rest ih =>
    have behind : (place.after lexeme).scope = (other.after lexeme).scope := Cursor.scope_after_congr same
    cases shown : lexeme.isToken with
    | true =>
      have spaceBehind : ((place.after lexeme).after (.blank ' ')).scope = (other.after lexeme).scope := behind
      rw [Lexeme.spaced_of_shown shown, placeTokens, placeTokens, placeTokens, List.map_append, List.map_append,
        List.map_append, ih spaceBehind, Cursor.outline_token? same]
      rfl
    | false =>
      rw [Cursor.scope_after_of_silent shown] at behind
      rw [Lexeme.spaced_of_silent shown, placeTokens, Cursor.token?_eq_none shown, ih behind]
      rfl

/-- The tokens of a row of lexemes are written as the row in which spaces keep them apart. -/
theorem toList_written (place : Cursor) (lexemes : List Lexeme) :
    (written (placeTokens place lexemes)).toList = (Lexeme.spaced lexemes).flatMap Lexeme.chars := by
  induction lexemes generalizing place with
  | nil => rfl
  | cons lexeme rest ih =>
    cases shown : lexeme.isToken with
    | true =>
      obtain ⟨t, yields, shows⟩ := place.exists_token? shown
      rw [placeTokens, yields, Option.toList_some, List.singleton_append, written, String.toList_append,
        String.toList_append, ih, shows.text, String.toList_ofList, Lexeme.spaced_of_shown shown]
      simp [Lexeme.chars]
    | false =>
      rw [placeTokens, Cursor.token?_eq_none shown, Lexeme.spaced_of_silent shown]
      exact ih _

/-- The texts of the tokens of a source, each followed by a space, have the same tokens in the same blocks as the
source. -/
theorem tokenize_written (source : String) :
    (tokenize (written (tokenize source))).map Token.outline = (tokenize source).map Token.outline := by
  have cut : Lexeme.ofChars (written (tokenize source)).toList =
      Lexeme.spaced (Lexeme.ofChars source.toList) := by
    rw [tokenize, toList_written]
    exact (Lexeme.splits_iff.mp (splits_source source).spaced).symm
  calc (tokenize (written (tokenize source))).map Token.outline
      = (placeTokens .start (Lexeme.spaced (Lexeme.ofChars source.toList))).map Token.outline := by
        rw [tokenize, cut]
    _ = (tokenize source).map Token.outline := outline_placeTokens_spaced rfl _

example : written (tokenize "int/* a */b=\"\\\" //\";") = "int b = \"\\\" //\" ; " := by decide +kernel

end ScriptCheck
