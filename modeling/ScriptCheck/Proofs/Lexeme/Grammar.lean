import ScriptCheck.Lexeme

/-! # The lexical grammar

Which lexeme stands at the front of a text is said here without the functions that cut it off, in terms of
where the end of a comment, of a string literal and of a word first occur (`Lexeme.Cuts`). At each point of a
text the grammar allows one lexeme and no other (`Lexeme.cuts_iff`), so every text has exactly one split, and
that is the one into which it is cut (`Lexeme.splits_iff`).
-/

namespace ScriptCheck

namespace Lexeme

/-! ### The grammar -/

/-- What stands behind these characters is escaped: an odd number of backslashes ends them. -/
def Escaped (before : List Char) : Prop := (before.reverse.takeWhile (· == '\\')).length % 2 = 1

/-- Every quote among these characters is escaped. -/
def Quoted (body : List Char) : Prop := ∀ front back, body = front ++ '"' :: back → Escaped front

def Commented (body : List Char) : Prop := ¬ ['*', '/'] <:+: body

/-- A word stops before this text: it begins with a blank, a quote, a mark or a comment. -/
def Stops : List Char → Prop
  | [] => False
  | c :: rest => c ∈ [' ', '\t', '\r', '\n'] ∨ c = '"' ∨
      c ∈ ['{', '}', '=', ';', '+', '-', '(', ')', ','] ∨
      c = '/' ∧ (rest.head? = some '/' ∨ rest.head? = some '*')

/-- A word goes through these characters to the text behind them. -/
def Runs (cs rest : List Char) : Prop :=
  ∀ front c back, cs = front ++ c :: back → ¬ Stops (c :: back ++ rest)

/-- The lexeme at the front of a text, and the text behind it. -/
inductive Cuts : List Char → Lexeme → List Char → Prop
  | blank {c : Char} {rest : List Char} (blank : c ∈ [' ', '\t', '\r', '\n']) :
      Cuts (c :: rest) (.blank c) rest
  | lineComment {body rest : List Char} (same : '\n' ∉ body)
      (stops : rest = [] ∨ rest.head? = some '\n') :
      Cuts ('/' :: '/' :: (body ++ rest)) (.lineComment body) rest
  | blockComment {body rest : List Char} (inside : Commented body) :
      Cuts ('/' :: '*' :: (body ++ '*' :: '/' :: rest)) (.blockComment body) rest
  | quote {body rest : List Char} (inside : Quoted body) (ends : ¬ Escaped body) :
      Cuts ('"' :: (body ++ '"' :: rest)) (.quote body) rest
  | mark {c : Char} {rest : List Char} (mark : c ∈ ['{', '}', '=', ';', '+', '-', '(', ')', ',']) :
      Cuts (c :: rest) (.mark c) rest
  | word {c : Char} {cs rest : List Char} (runs : Runs (c :: cs) rest) (stops : Stops rest) :
      Cuts (c :: (cs ++ rest)) (.word (c :: cs)) rest
  | openComment {body : List Char} (inside : Commented body) :
      Cuts ('/' :: '*' :: body) (.unfinished .comment ('/' :: '*' :: body)) []
  | openQuote {body : List Char} (inside : Quoted body) :
      Cuts ('"' :: body) (.unfinished .quote ('"' :: body)) []
  | openWord {c : Char} {cs : List Char} (runs : Runs (c :: cs) []) :
      Cuts (c :: cs) (.unfinished .word (c :: cs)) []

/-- A text is split into lexemes from left to right, each cut off at the front of what is left. -/
inductive Splits : List Char → List Lexeme → Prop
  | nil : Splits [] []
  | cons {cs rest : List Char} {lexeme : Lexeme} {lexemes : List Lexeme} (cuts : Cuts cs lexeme rest)
      (splits : Splits rest lexemes) : Splits cs (lexeme :: lexemes)

variable {c : Char} {cs rest front body after : List Char} {lexeme : Lexeme}

/-! ### Kinds of character -/

theorem isBlank_iff : isBlank c = true ↔ c ∈ [' ', '\t', '\r', '\n'] := by
  simp [isBlank, or_assoc]

private theorem isMark_iff : isMark c = true ↔ c ∈ ['{', '}', '=', ';', '+', '-', '(', ')', ','] := by
  rw [isMark, List.contains_iff_mem]

private theorem opensComment_iff : opensComment c rest = true ↔
    c = '/' ∧ (rest.head? = some '/' ∨ rest.head? = some '*') := by
  simp [opensComment]

theorem endsWord_iff : endsWord c rest = true ↔ Stops (c :: rest) := by
  simp only [endsWord, Bool.or_eq_true, beq_iff_eq, isBlank_iff, isMark_iff, opensComment_iff, Stops,
    or_assoc]

/-! ### Words -/

private theorem runs_nil : Runs [] rest := by
  intro front c back same
  simp at same

theorem runs_cons : Runs (c :: cs) rest ↔ ¬ Stops (c :: cs ++ rest) ∧ Runs cs rest := by
  constructor
  · intro runs
    refine ⟨runs [] c cs rfl, ?_⟩
    rintro front d back rfl
    exact runs (c :: front) d back rfl
  · rintro ⟨first, runs⟩ front d back same
    cases front with
    | nil =>
      obtain ⟨rfl, rfl⟩ := List.cons.inj same
      exact first
    | cons e front =>
      obtain ⟨rfl, rfl⟩ := List.cons.inj same
      exact runs front d back rfl

/-- A word goes through to another text if each character that would end it there would end it here. -/
theorem Runs.imp {other : List Char} (runs : Runs cs rest)
    (ends : ∀ c, Stops (c :: other) → Stops (c :: rest)) : Runs cs other := by
  rintro front c back rfl stops
  apply runs front c back rfl
  cases back with
  | nil => exact ends c stops
  | cons d back => exact stops

theorem splitWord_of_runs (runs : Runs cs rest) (stops : rest = [] ∨ Stops rest) :
    splitWord (cs ++ rest) = (cs, rest) := by
  induction cs with
  | nil =>
    cases rest with
    | nil => rfl
    | cons c rest =>
      have ends : endsWord c rest = true := endsWord_iff.mpr (stops.resolve_left (by simp))
      simp [splitWord, ends]
  | cons c cs ih =>
    obtain ⟨first, runs⟩ := runs_cons.mp runs
    have goesOn : endsWord c (cs ++ rest) = false := Bool.eq_false_iff.mpr (mt endsWord_iff.mp first)
    simp [splitWord, goesOn, ih runs]

private theorem runs_splitWord (cs : List Char) :
    Runs (splitWord cs).1 (splitWord cs).2 ∧ ((splitWord cs).2 = [] ∨ Stops (splitWord cs).2) := by
  induction cs with
  | nil => exact ⟨runs_nil, .inl rfl⟩
  | cons c rest ih =>
    by_cases ends : endsWord c rest = true
    · simp only [splitWord, ends, if_true]
      exact ⟨runs_nil, .inr (endsWord_iff.mp ends)⟩
    · simp only [splitWord, ends, Bool.false_eq_true, if_false]
      refine ⟨runs_cons.mpr ⟨?_, ih.1⟩, ih.2⟩
      rw [List.cons_append, splitWord_append]
      exact mt endsWord_iff.mpr ends

/-! ### Block comments -/

theorem splitComment_eq_none_iff : splitComment cs = none ↔ Commented cs := by
  unfold Commented
  fun_induction splitComment cs with
  | case1 => simp
  | case2 rest => simp [List.infix_cons_iff]
  | case3 c rest noEnd ih =>
    have notFirst : ¬ ['*', '/'] <+: c :: rest := by
      rintro ⟨back, same⟩
      obtain ⟨rfl, rfl⟩ := List.cons.inj same
      exact noEnd back rfl rfl
    rw [Option.map_eq_none_iff, ih, List.infix_cons_iff]
    simp [notFirst]

private theorem commented_of_splitComment (found : splitComment cs = some (body, after)) : Commented body := by
  unfold Commented
  fun_induction splitComment cs generalizing body after with
  | case1 => cases found
  | case2 rest =>
    cases found
    simp
  | case3 c rest noEnd ih =>
    obtain ⟨⟨inner, behind⟩, inside, same⟩ := Option.map_eq_some_iff.mp found
    cases same
    rw [List.infix_cons_iff, not_or]
    refine ⟨?_, ih inside⟩
    rintro ⟨back, same⟩
    obtain ⟨rfl, rfl⟩ := List.cons.inj same
    exact noEnd _ rfl (splitComment_append inside).symm

theorem splitComment_of_commented (commented : Commented body) :
    splitComment (body ++ '*' :: '/' :: after) = some (body, after) := by
  unfold Commented at commented
  induction body with
  | nil => rfl
  | cons c body ih =>
    rw [List.infix_cons_iff, not_or] at commented
    obtain ⟨notFirst, onward⟩ := commented
    have noEnd : ∀ rest, c = '*' → body ++ '*' :: '/' :: after = '/' :: rest → False := by
      rintro rest rfl same
      cases body with
      | nil => cases same
      | cons d body =>
        obtain ⟨rfl, _⟩ := List.cons.inj same
        exact notFirst ⟨body, rfl⟩
    rw [List.cons_append, splitComment.eq_3 _ _ noEnd, ih onward]
    rfl

/-! ### String literals -/

private theorem not_escaped_nil : ¬ Escaped [] := by simp [Escaped]

private theorem escaped_backslash : Escaped ['\\'] := by simp [Escaped]

/-- A character that is no backslash separates those before it from those behind it. -/
theorem escaped_cons (plain : c ≠ '\\') : Escaped (c :: front) ↔ Escaped front := by
  rw [Escaped, Escaped, List.reverse_cons, List.takeWhile_append]
  split
  · rename_i all
    simp [plain, all]
  · rfl

/-- A backslash and the character behind it escape nothing else. -/
theorem escaped_pair : Escaped ('\\' :: c :: front) ↔ Escaped front := by
  rw [Escaped, Escaped, List.reverse_cons, List.reverse_cons, List.append_assoc, List.takeWhile_append]
  split
  · rename_i all
    rw [all]
    by_cases backslash : c = '\\' <;> simp [backslash]
  · rfl

private theorem quoted_nil : Quoted [] := by
  intro front back same
  simp at same

/-- A quote can only stand behind the first character. -/
theorem quoted_cons (plain : c ≠ '\\') (inside : c ≠ '"') : Quoted (c :: body) ↔ Quoted body := by
  constructor
  · rintro quoted front back rfl
    exact (escaped_cons plain).mp (quoted (c :: front) back rfl)
  · intro quoted front back same
    cases front with
    | nil => exact absurd (List.cons.inj same).1 inside
    | cons d front =>
      obtain ⟨rfl, rfl⟩ := List.cons.inj same
      exact (escaped_cons plain).mpr (quoted front back rfl)

private theorem quoted_pair : Quoted ('\\' :: c :: body) ↔ Quoted body := by
  constructor
  · rintro quoted front back rfl
    exact escaped_pair.mp (quoted ('\\' :: c :: front) back rfl)
  · intro quoted front back same
    match front with
    | [] => cases (List.cons.inj same).1
    | [d] =>
      obtain ⟨rfl, _⟩ := List.cons.inj same
      exact escaped_backslash
    | d :: e :: front =>
      obtain ⟨isBackslash, same⟩ := List.cons.inj same
      obtain ⟨rfl, rfl⟩ := List.cons.inj same
      rw [← isBackslash]
      exact escaped_pair.mpr (quoted front back rfl)

/-- Outside of an escape a string literal ends at a quote and goes on behind everything else. -/
theorem splitQuote_cons (plain : c ≠ '\\') : splitQuote (c :: rest) =
    if c = '"' then some ([], rest) else (splitQuote rest).map fun p => (c :: p.1, p.2) := by
  rw [splitQuote.eq_4]
  · exact fun backslash _ => plain backslash
  · exact fun _ _ backslash _ => plain backslash

/-- What begins no escape is no backslash. -/
theorem ne_backslash (notOnly : c = '\\' → rest = [] → False)
    (notPair : ∀ d tail, c = '\\' → rest = d :: tail → False) : c ≠ '\\' := by
  rintro rfl
  cases rest with
  | nil => exact notOnly rfl rfl
  | cons d tail => exact notPair d tail rfl rfl

theorem splitQuote_of_quoted (quoted : Quoted body) (plain : ¬ Escaped body) :
    splitQuote (body ++ '"' :: after) = some (body, after) := by
  fun_induction splitQuote body with
  | case1 => rfl
  | case2 => exact absurd escaped_backslash plain
  | case3 c rest ih =>
    rw [quoted_pair] at quoted
    rw [escaped_pair] at plain
    rw [List.cons_append, List.cons_append, splitQuote, ih quoted plain]
    rfl
  | case4 rest =>
    exact absurd (quoted [] rest rfl) not_escaped_nil
  | case5 c rest notOnly notPair notQuote ih =>
    have noBackslash := ne_backslash notOnly notPair
    rw [quoted_cons noBackslash notQuote] at quoted
    rw [escaped_cons noBackslash] at plain
    rw [List.cons_append, splitQuote_cons noBackslash, if_neg notQuote, ih quoted plain]
    rfl

/-- In a string literal that is cut off, every quote but the last is escaped. -/
theorem quoted_of_splitQuote (found : splitQuote cs = some (body, after)) :
    Quoted body ∧ ¬ Escaped body := by
  fun_induction splitQuote cs generalizing body after with
  | case1 => cases found
  | case2 => cases found
  | case3 c rest ih =>
    obtain ⟨⟨inner, behind⟩, inside, same⟩ := Option.map_eq_some_iff.mp found
    cases same
    rw [quoted_pair, escaped_pair]
    exact ih inside
  | case4 rest =>
    cases found
    exact ⟨quoted_nil, not_escaped_nil⟩
  | case5 c rest notOnly notPair notQuote ih =>
    obtain ⟨⟨inner, behind⟩, inside, same⟩ := Option.map_eq_some_iff.mp found
    cases same
    have noBackslash := ne_backslash notOnly notPair
    rw [quoted_cons noBackslash notQuote, escaped_cons noBackslash]
    exact ih inside

theorem splitQuote_eq_none_iff : splitQuote cs = none ↔ Quoted cs := by
  fun_induction splitQuote cs with
  | case1 => simp [quoted_nil]
  | case2 =>
    have quoted : Quoted ['\\'] := by
      intro front back same
      cases front with
      | nil => cases (List.cons.inj same).1
      | cons d front => simp at same
    simp [quoted]
  | case3 c rest ih => rw [Option.map_eq_none_iff, ih, quoted_pair]
  | case4 rest =>
    have unquoted : ¬ Quoted ('"' :: rest) := fun quoted => not_escaped_nil (quoted [] rest rfl)
    simp [unquoted]
  | case5 c rest notOnly notPair notQuote ih =>
    rw [Option.map_eq_none_iff, ih, quoted_cons (ne_backslash notOnly notPair) notQuote]

/-! ### Line comments -/

private theorem newline_not_mem_takeWhile (cs : List Char) : '\n' ∉ cs.takeWhile (· != '\n') := by
  intro member
  have plain := List.all_eq_true.mp List.all_takeWhile '\n' member
  simp at plain

private theorem head?_dropWhile (cs : List Char) :
    cs.dropWhile (· != '\n') = [] ∨ (cs.dropWhile (· != '\n')).head? = some '\n' := by
  have stops := List.head?_dropWhile_not (· != '\n') cs
  cases left : cs.dropWhile (· != '\n') with
  | nil => exact .inl rfl
  | cons c rest =>
    rw [left] at stops
    right
    simpa using stops

theorem takeWhile_line (same : '\n' ∉ body) (stops : rest = [] ∨ rest.head? = some '\n') :
    (body ++ rest).takeWhile (· != '\n') = body ∧ (body ++ rest).dropWhile (· != '\n') = rest := by
  have inside : ∀ c ∈ body, (c != '\n') = true := by
    intro c member
    simp only [bne_iff_ne, ne_eq]
    rintro rfl
    exact same member
  rw [List.takeWhile_append_of_pos inside, List.dropWhile_append_of_pos inside]
  cases rest with
  | nil => simp
  | cons c rest =>
    obtain rfl : c = '\n' := by simpa using stops
    simp

/-! ### One lexeme -/

/-- A text at which no word stops begins with a word. -/
theorem first_of_not_stops (goesOn : ¬ Stops (c :: rest)) :
    first c rest = (ofWord (c :: (splitWord rest).1) (splitWord rest).2, (splitWord rest).2) := by
  simp only [Stops, not_or, not_and, ← isBlank_iff, ← isMark_iff] at goesOn
  obtain ⟨notBlank, notQuote, notMark, notComment⟩ := goesOn
  unfold first
  rw [if_neg notBlank, if_neg notMark, if_neg notQuote, if_neg, if_neg]
  · simp only [Bool.and_eq_true, decide_eq_true_eq, beq_iff_eq, not_and]
    exact fun slash => (notComment slash).2
  · simp only [Bool.and_eq_true, decide_eq_true_eq, beq_iff_eq, not_and]
    exact fun slash => (notComment slash).1

/-- The word that is cut off goes on as long as it can. -/
theorem cuts_word (goesOn : ¬ Stops (c :: rest)) :
    Cuts (c :: rest) (ofWord (c :: (splitWord rest).1) (splitWord rest).2) (splitWord rest).2 := by
  obtain ⟨runs, stops⟩ := runs_splitWord rest
  have whole := splitWord_append rest
  generalize splitWord rest = split at runs stops whole ⊢
  obtain ⟨cs, after⟩ := split
  subst whole
  have longest : Runs (c :: cs) after := runs_cons.mpr ⟨goesOn, runs⟩
  rcases stops with rfl | stops
  · rw [List.append_nil]
    exact .openWord longest
  · cases after with
    | nil => exact stops.elim
    | cons d after => exact .word longest stops

/-- What is cut off at the front is what the grammar asks for. -/
theorem cuts_first (c : Char) (rest : List Char) : Cuts (c :: rest) (first c rest).1 (first c rest).2 := by
  by_cases stops : Stops (c :: rest)
  case neg =>
    rw [first_of_not_stops stops]
    exact cuts_word stops
  unfold first
  split
  · rename_i blank
    exact .blank (isBlank_iff.mp blank)
  rename_i notBlank
  split
  · rename_i mark
    exact .mark (isMark_iff.mp mark)
  rename_i notMark
  split
  · rename_i isQuote
    subst isQuote
    split
    · rename_i body after found
      obtain ⟨inside, ends⟩ := quoted_of_splitQuote found
      rw [← splitQuote_append found]
      exact .quote inside ends
    · rename_i none
      exact .openQuote (splitQuote_eq_none_iff.mp none)
  rename_i notQuote
  rw [isBlank_iff] at notBlank
  rw [isMark_iff] at notMark
  obtain ⟨rfl, opens⟩ := ((stops.resolve_left notBlank).resolve_left notQuote).resolve_left notMark
  cases rest with
  | nil => simp at opens
  | cons d rest =>
    obtain rfl | rfl : d = '/' ∨ d = '*' := by simpa using opens
    · have cuts : Cuts ('/' :: '/' :: (rest.takeWhile (· != '\n') ++ rest.dropWhile (· != '\n')))
          (.lineComment (rest.takeWhile (· != '\n'))) (rest.dropWhile (· != '\n')) :=
        .lineComment (newline_not_mem_takeWhile rest) (head?_dropWhile rest)
      rw [List.takeWhile_append_dropWhile] at cuts
      exact cuts
    · have notLine : ¬ ('/' = '/' && ('*' :: rest).head? == some '/') = true := by simp
      have opensBlock : ('/' = '/' && ('*' :: rest).head? == some '*') = true := by simp
      rw [if_neg notLine, if_pos opensBlock, List.tail_cons]
      split
      · rename_i body after found
        rw [← splitComment_append found]
        exact .blockComment (commented_of_splitComment found)
      · rename_i none
        exact .openComment (splitComment_eq_none_iff.mp none)

/-- Where the grammar allows a lexeme, that one is cut off. -/
theorem Cuts.first_eq (cuts : Cuts (c :: cs) lexeme rest) : first c cs = (lexeme, rest) := by
  cases cuts with
  | blank blank => simp [first, isBlank_iff.mpr blank]
  | lineComment same stops =>
    obtain ⟨line, left⟩ := takeWhile_line same stops
    simp [first, isBlank, isMark, line, left]
  | blockComment inside => simp [first, isBlank, isMark, splitComment_of_commented inside]
  | quote inside ends => simp [first, isBlank, isMark, splitQuote_of_quoted inside ends]
  | mark mark =>
    have notBlank : isBlank c = false := by
      simp only [List.mem_cons, List.not_mem_nil, or_false] at mark
      rcases mark with rfl | rfl | rfl | rfl | rfl | rfl | rfl | rfl | rfl <;> rfl
    simp [first, notBlank, isMark_iff.mpr mark]
  | @word _ tail _ runs stops =>
    obtain ⟨first, onward⟩ := runs_cons.mp runs
    have goesOn : ¬ Stops (c :: (tail ++ rest)) := first
    have nonempty : rest.isEmpty = false := by
      cases rest with
      | nil => exact stops.elim
      | cons => rfl
    rw [first_of_not_stops goesOn, splitWord_of_runs onward (.inr stops)]
    simp [ofWord, nonempty]
  | openComment inside => simp [first, isBlank, isMark, splitComment_eq_none_iff.mpr inside]
  | openQuote inside => simp [first, isBlank, isMark, splitQuote_eq_none_iff.mpr inside]
  | openWord runs =>
    obtain ⟨goesOn, onward⟩ := runs_cons.mp runs
    have split := splitWord_of_runs onward (.inl rfl)
    rw [List.append_nil] at split goesOn
    rw [first_of_not_stops goesOn, split]
    rfl

/-- At each point the grammar allows the lexeme that is cut off there and no other. -/
theorem cuts_iff : Cuts (c :: cs) lexeme rest ↔ first c cs = (lexeme, rest) := by
  constructor
  · exact Cuts.first_eq
  · intro same
    have cuts := cuts_first c cs
    rw [same] at cuts
    exact cuts

/-! ### All lexemes -/

theorem not_cuts_nil : ¬ Cuts [] lexeme rest := by
  intro cuts
  cases cuts

theorem Splits.eq_nil {lexemes : List Lexeme} (splits : Splits [] lexemes) : lexemes = [] := by
  cases splits with
  | nil => rfl
  | cons cuts => exact absurd cuts not_cuts_nil

/-- Every text has exactly one split, and that is the one into which it is cut. -/
theorem splits_iff {lexemes : List Lexeme} : Splits cs lexemes ↔ lexemes = ofChars cs := by
  constructor
  · intro splits
    induction splits with
    | nil => rw [ofChars]
    | @cons cs _ _ _ cuts _ ih =>
      cases cs with
      | nil => exact absurd cuts not_cuts_nil
      | cons c cs => rw [ofChars, cuts.first_eq, ih]
  · rintro rfl
    fun_induction ofChars cs with
    | case1 => exact .nil
    | case2 c rest ih => exact .cons (cuts_first c rest) ih

/-- The lexemes of a split, written one after the other, are the text. -/
theorem Splits.flatMap_chars {lexemes : List Lexeme} (splits : Splits cs lexemes) :
    lexemes.flatMap chars = cs := by
  rw [splits_iff.mp splits, flatMap_chars_ofChars]

/-- Only the end of the text leaves a lexeme unfinished. -/
theorem Splits.last_of_unfinished {what : Unfinished} {front back : List Lexeme} {piece : List Char}
    (splits : Splits cs (front ++ .unfinished what piece :: back)) : back = [] := by
  induction front generalizing cs with
  | nil =>
    cases splits with
    | cons cuts rest =>
      cases cuts with
      | openComment | openQuote | openWord => exact rest.eq_nil
  | cons lexeme front ih =>
    cases splits with
    | cons _ rest => exact ih rest

end Lexeme

end ScriptCheck
