import ScriptCheck.Proofs.Token.Spans

/-! # Cutting a source into lines

A source can be cut behind any line feed at which the scanner is between tokens: what stands before the cut and
what stands behind it have the tokens of the whole, those behind the cut moved on by the bytes, the lines and
the braces before it (`tokenize_append`). No lexeme goes on over such a line feed, and no look at the next
character depends on what stands behind it.
-/

namespace ScriptCheck

/-! ### Lexemes before a line feed -/

namespace Lexeme

variable {cs rest behind : List Char} {c : Char} {lexeme : Lexeme} {lexemes others : List Lexeme}

private theorem Cuts.chars_append (cuts : Cuts cs lexeme rest) : lexeme.chars ++ rest = cs := by
  cases cuts <;> simp [chars]

private theorem Stops.append (stops : Stops rest) : Stops (rest ++ behind) := by
  cases rest with
  | nil => exact stops.elim
  | cons c rest =>
    cases rest with
    | nil => rcases stops with blank | quote | mark | ⟨_, next⟩ <;> simp_all [Stops]
    | cons d rest => exact stops

/-- A word that stops before this text stops there whatever stands behind it. -/
theorem Runs.append (runs : Runs cs rest) (stops : Stops rest) : Runs cs (rest ++ behind) := by
  apply runs.imp
  intro c ends
  cases rest with
  | nil => exact stops.elim
  | cons d rest => exact ends

/-- A finished lexeme of a text that ends with a line feed is cut off whatever stands behind the text. -/
theorem Cuts.append (cuts : Cuts cs lexeme rest) (finished : ∀ what piece, lexeme ≠ .unfinished what piece)
    (line : cs.getLast? = some '\n') : Cuts (cs ++ behind) lexeme (rest ++ behind) := by
  cases cuts with
  | blank blank => exact .blank blank
  | @lineComment body rest same stops =>
    have ahead : rest.head? = some '\n' := by
      rcases stops with rfl | ahead
      · have member := List.mem_of_getLast? line
        simp [same] at member
      · exact ahead
    simp only [List.cons_append, List.append_assoc]
    apply Cuts.lineComment same
    right
    cases rest with
    | nil => cases ahead
    | cons d rest => exact ahead
  | blockComment inside =>
    simp only [List.cons_append, List.append_assoc]
    exact .blockComment inside
  | quote inside ends =>
    simp only [List.cons_append, List.append_assoc]
    exact .quote inside ends
  | mark mark => exact .mark mark
  | word runs stops =>
    simp only [List.cons_append, List.append_assoc]
    exact .word (runs.append stops) stops.append
  | openComment | openQuote | openWord => exact absurd rfl (finished _ _)

/-- A text that ends with a line feed and leaves nothing unfinished is split as it is by itself, whatever stands
behind it. -/
theorem Splits.append (splits : Splits cs lexemes) (finished : ∀ what piece, .unfinished what piece ∉ lexemes)
    (line : cs = [] ∨ cs.getLast? = some '\n') (later : Splits behind others) :
    Splits (cs ++ behind) (lexemes ++ others) := by
  induction splits with
  | nil => exact later
  | @cons cs rest lexeme lexemes cuts splits ih =>
    have whole := cuts.chars_append
    have ends : cs.getLast? = some '\n' := by
      rcases line with rfl | ends
      · exact absurd cuts not_cuts_nil
      · exact ends
    have goesOn : rest = [] ∨ rest.getLast? = some '\n' := by
      cases rest with
      | nil => exact .inl rfl
      | cons d rest =>
        right
        rw [← whole, List.getLast?_append_cons] at ends
        exact ends
    refine .cons (cuts.append ?_ ends) (ih ?_ goesOn)
    · rintro what piece rfl
      exact finished what piece (List.mem_cons_self ..)
    · intro what piece member
      exact finished what piece (List.mem_cons_of_mem lexeme member)

end Lexeme

/-! ### Places behind another text -/

/-- The coordinate, when the braces before the text lead to `base`. -/
def Scope.behind (scope base : Scope) : Scope := ⟨base.depth + scope.depth, base.region + scope.region⟩

/-- The place, when a text of so many bytes and lines, whose braces lead to `base`, stands before its own. -/
def Cursor.behind (place : Cursor) (bytes lines : Nat) (base : Scope) : Cursor :=
  ⟨bytes + place.offset, lines + place.line, place.scope.behind base⟩

/-- The token, when a text of so many bytes and lines, whose braces lead to `base`, stands before its own. -/
def Token.behind (t : Token) (bytes lines : Nat) (base : Scope) : Token :=
  { t with
    line := lines + t.line, scope := t.scope.behind base,
    span := ⟨bytes + t.span.start, bytes + t.span.stop⟩ }

variable {place : Cursor} {bytes lines : Nat} {base : Scope} {lexeme : Lexeme} {lexemes front back : List Lexeme}

private theorem Scope.after_behind (scope base : Scope) (c : Char) :
    (scope.behind base).after c = (scope.after c).behind base := by
  unfold Scope.after
  split
  · simp [behind, Int.add_assoc, Nat.add_assoc]
  split
  · simp [behind, Int.add_sub_assoc, Nat.add_assoc]
  · rfl

namespace Cursor

private theorem past_behind (place : Cursor) (bytes lines : Nat) (base : Scope) (cs : List Char) :
    (place.behind bytes lines base).past cs = (place.past cs).behind bytes lines base := by
  simp [past, behind, Nat.add_assoc]

private theorem after_behind : (place.behind bytes lines base).after lexeme =
    (place.after lexeme).behind bytes lines base := by
  cases lexeme with
  | mark c =>
    have moved : (place.behind bytes lines base).scope.after c = (place.scope.after c).behind base :=
      Scope.after_behind ..
    rw [after, past_behind, moved]
    rfl
  | blank | lineComment | blockComment | quote | word | unfinished => exact past_behind ..

private theorem wordToken_behind (place : Cursor) (bytes lines : Nat) (base : Scope) (cs : List Char) :
    (place.behind bytes lines base).wordToken cs = (place.wordToken cs).behind bytes lines base := by
  simp [wordToken, span, behind, Token.behind, Nat.add_assoc]

private theorem token?_behind : (place.behind bytes lines base).token? lexeme =
    (place.token? lexeme).map fun t => t.behind bytes lines base := by
  cases lexeme with
  | mark c =>
    have inside := wordToken_behind { place with scope := place.scope.after c } bytes lines base [c]
    rw [token?, token?, Option.map_some, ← inside, behind, behind, Scope.after_behind]
  | word cs => rw [token?, token?, Option.map_some, wordToken_behind]
  | quote body => simp [token?, span, behind, Token.behind, Nat.add_assoc]
  | blank | lineComment | blockComment | unfinished => rfl

end Cursor

/-- The tokens of a text that stands behind another one. -/
theorem placeTokens_behind (place : Cursor) (lexemes : List Lexeme) (bytes lines : Nat) (base : Scope) :
    placeTokens (place.behind bytes lines base) lexemes =
      (placeTokens place lexemes).map fun t => t.behind bytes lines base := by
  induction lexemes generalizing place with
  | nil => rfl
  | cons lexeme rest ih =>
    rw [placeTokens, placeTokens, Cursor.after_behind, ih, Cursor.token?_behind, List.map_append,
      Option.toList_map]

private theorem placeTokens_append (place : Cursor) (front back : List Lexeme) :
    placeTokens place (front ++ back) =
      placeTokens place front ++ placeTokens (front.foldl Cursor.after place) back := by
  induction front generalizing place with
  | nil => rfl
  | cons lexeme rest ih => rw [List.cons_append, placeTokens, placeTokens, ih, List.append_assoc, List.foldl_cons]

/-- Behind some lexemes the place has moved on by their bytes and their line feeds. -/
theorem foldl_after (place : Cursor) (lexemes : List Lexeme) :
    (lexemes.foldl Cursor.after place).offset =
        place.offset + Text.byteLength (lexemes.flatMap Lexeme.chars) ∧
      (lexemes.foldl Cursor.after place).line = place.line + (lexemes.flatMap Lexeme.chars).count '\n' := by
  induction lexemes generalizing place with
  | nil => exact ⟨rfl, rfl⟩
  | cons lexeme rest ih =>
    obtain ⟨offset, line⟩ := ih (place.after lexeme)
    rw [List.foldl_cons, offset, line, place.offset_after, place.line_after, List.flatMap_cons,
      Text.byteLength_append, List.count_append]
    omega

private theorem not_mem_of_leftoverFrom (nothing : leftoverFrom place lexemes = none) :
    ∀ what piece, .unfinished what piece ∉ lexemes := by
  induction lexemes generalizing place with
  | nil => simp
  | cons lexeme rest ih =>
    cases lexeme with
    | unfinished => cases nothing
    | _ =>
      intro what piece member
      exact ih nothing what piece (by simpa using member)

/-! ### Scanning up to a line feed -/

namespace Scanner

variable {cs : List Char} {ts : List Token}

/-- Behind a text that leaves nothing unfinished the scanner is between tokens, with those of the text found. -/
theorem scan_finished (splits : Lexeme.Splits cs lexemes)
    (finished : ∀ what piece, .unfinished what piece ∉ lexemes) :
    scan (between place ts) cs = between (lexemes.foldl Cursor.after place) (ts ++ placeTokens place lexemes) := by
  induction splits generalizing place ts with
  | nil =>
    rw [scan]
    exact congrArg (between place) (List.append_nil ts).symm
  | @cons cs rest lexeme lexemes cuts _ ih =>
    have ends : ∀ what piece, lexeme ≠ .unfinished what piece := by
      rintro what piece rfl
      exact finished what piece (List.mem_cons_self ..)
    have later : ∀ what piece, .unfinished what piece ∉ lexemes := by
      intro what piece member
      exact finished what piece (List.mem_cons_of_mem lexeme member)
    rw [scan_cuts cuts ends, ih later, placeTokens, List.append_assoc, List.foldl_cons]

/-- Where the scanner ends between tokens nothing has been left unfinished. -/
theorem not_mem_unfinished {source : String} (closed : (run source).mode = .between) :
    ∀ what piece, .unfinished what piece ∉ Lexeme.ofChars source.toList := by
  have nothing : leftover? source = none := by
    have silent := message?_run source
    rw [message?, closed] at silent
    exact Option.map_eq_none_iff.mp silent.symm
  exact not_mem_of_leftoverFrom nothing

end Scanner

/-! ### A source that is cut behind a line feed -/

/-- Where a text ends with a line feed and leaves the scanner between tokens, with no string literal and no
block comment open, the tokens of the text and another one behind it are those of the text and then those of the
other one, moved on by the bytes and the line feeds of the text and by the depth and the region to which its
braces have led. -/
theorem tokenize_append {a b : String} (line : a.toList.getLast? = some '\n')
    (closed : (Scanner.run a).mode = .between) :
    tokenize (a ++ b) = tokenize a ++
      (tokenize b).map fun t =>
        t.behind a.utf8ByteSize (a.toList.count '\n') (Scanner.run a).place.scope := by
  have finished := Scanner.not_mem_unfinished closed
  have split := (splits_source a).append finished (.inr line) (splits_source b)
  have reached : (Scanner.run a).place = (Lexeme.ofChars a.toList).foldl Cursor.after .start := by
    rw [Scanner.run, Scanner.scan_finished (splits_source a) finished]
    rfl
  have moved := foldl_after .start (Lexeme.ofChars a.toList)
  rw [Lexeme.flatMap_chars_ofChars, ← reached] at moved
  have behind : (Scanner.run a).place =
      Cursor.start.behind a.utf8ByteSize (a.toList.count '\n') (Scanner.run a).place.scope := by
    obtain ⟨offset, lines⟩ := moved
    generalize (Scanner.run a).place = place at offset lines ⊢
    obtain ⟨_, _, depth, region⟩ := place
    simp only at offset lines
    rw [offset, lines, Text.byteLength_toList]
    simp [Cursor.behind, Cursor.start, Scope.behind, Scope.outermost, Nat.add_comm]
  calc tokenize (a ++ b)
      = placeTokens .start (Lexeme.ofChars a.toList ++ Lexeme.ofChars b.toList) := by
        rw [tokenize, String.toList_append, ← Lexeme.splits_iff.mp split]
    _ = tokenize a ++ placeTokens (Scanner.run a).place (Lexeme.ofChars b.toList) := by
        rw [placeTokens_append, ← reached, tokenize]
    _ = tokenize a ++ (tokenize b).map fun t =>
          t.behind a.utf8ByteSize (a.toList.count '\n') (Scanner.run a).place.scope := by
        conv_lhs => rw [behind, placeTokens_behind]
        rfl

/-- Behind a comment that holds a brace the block of the first line is still open. -/
theorem tokenize_two_lines :
    ("\x7b int a; // \x7d\n" : String).toList.getLast? = some '\n' ∧
      (Scanner.run "\x7b int a; // \x7d\n").mode = .between ∧
      (Scanner.run "\x7b int a; // \x7d\n").place.scope = ⟨1, 1⟩ ∧
      tokenize ("\x7b int a; // \x7d\n" ++ "a = \"\x7d\"; \x7d\n") =
        tokenize "\x7b int a; // \x7d\n" ++
          (tokenize "a = \"\x7d\"; \x7d\n").map fun t => t.behind 14 1 ⟨1, 1⟩ := by
  have line : ("\x7b int a; // \x7d\n" : String).toList.getLast? = some '\n' := by decide +kernel
  have closed : (Scanner.run "\x7b int a; // \x7d\n").mode = .between := by decide +kernel
  have scope : (Scanner.run "\x7b int a; // \x7d\n").place.scope = ⟨1, 1⟩ := by decide +kernel
  have bytes : ("\x7b int a; // \x7d\n" : String).utf8ByteSize = 14 := by decide +kernel
  have lines : ("\x7b int a; // \x7d\n" : String).toList.count '\n' = 1 := by decide +kernel
  have cut := tokenize_append (b := "a = \"\x7d\"; \x7d\n") line closed
  rw [scope, bytes, lines] at cut
  exact ⟨line, closed, scope, cut⟩

end ScriptCheck
