import ScriptCheck.Proofs.Lexeme.Grammar
import ScriptCheck.Tokenize

/-! # Scanning character by character

A scanner reads a source one character at a time and looks at most one character ahead. It is between tokens,
in a word, in a string literal or in a block comment, and its buffer holds what it has read of a token. At the
end of a source it has found the tokens of the lexemes into which the source is cut (`Scanner.tokens_run`), and
what it is then in the middle of is what the last lexeme leaves unfinished (`Scanner.message?_run`).
-/

namespace ScriptCheck

/-- What a scanner is in the middle of, with the byte and the line at which that began. -/
inductive Mode where
  | between
  | word (start line : Nat)
  | quote (start line : Nat) (escaped : Bool)
  | comment (line : Nat)
deriving DecidableEq, Repr

/-- A scanner on its way through a source. -/
structure Scanner where
  place : Cursor
  mode : Mode
  buffer : List Char
  tokens : List Token
deriving DecidableEq, Repr

namespace Scanner

/-! ### The scanner -/

/-- What is in the buffer becomes a token. -/
def emit (s : Scanner) (kind : Kind) (span : Span) (line : Nat) : Scanner :=
  let t : Token := { kind, text := String.ofList s.buffer, line, scope := s.place.scope, span }
  { s with buffer := [], tokens := s.tokens ++ [t] }

/-- The word that is being read, if there is one, ends here. -/
def flush (s : Scanner) : Scanner :=
  match s.mode with
  | .word start line =>
    let span := ⟨start, start + Text.byteLength s.buffer⟩
    { s.emit (.ofText (String.ofList s.buffer)) span line with mode := .between }
  | _ => { s with mode := .between }

/-- A mark is a token by itself, and a brace stands already in the block that it opens or returns to. -/
def readMark (s : Scanner) (c : Char) : Scanner :=
  let inside : Cursor := { s.place with scope := s.place.scope.after c }
  let s := { s with place := inside, buffer := s.buffer ++ [c] }
  s.emit (.ofText (String.ofList s.buffer)) ⟨s.place.offset, s.place.offset + c.utf8Size⟩ s.place.line

/-- Reads `c`, followed by `rest`, between tokens or in a word, and the characters that it takes along. -/
def readPlain (s : Scanner) (c : Char) (rest : List Char) : Scanner × List Char :=
  if Lexeme.isBlank c then (s.flush, [])
  else if c == '"' then
    ({ s.flush with
        mode := .quote s.place.offset s.place.line false, buffer := s.flush.buffer ++ [c] }, [])
  else if c == '/' && rest.head? == some '/' then (s.flush, rest.takeWhile (· != '\n'))
  else if c == '/' && rest.head? == some '*' then
    -- The star is taken along, so that it cannot also begin the end of the comment.
    ({ s.flush with mode := .comment s.place.line }, ['*'])
  else if Lexeme.isMark c then (s.flush.readMark c, [])
  else
    let mode := if s.mode = .between then .word s.place.offset s.place.line else s.mode
    ({ s with mode, buffer := s.buffer ++ [c] }, [])

def readQuote (s : Scanner) (start line : Nat) (escaped : Bool) (c : Char) : Scanner :=
  let s := { s with buffer := s.buffer ++ [c] }
  if escaped then { s with mode := .quote start line false }
  else if c = '\\' then { s with mode := .quote start line true }
  else if c = '"' then { s with mode := .between }.emit .stringLiteral ⟨start, s.place.offset + 1⟩ line
  else s

/-- Reads `c`, followed by `rest`, in a block comment, and the slash that it takes along at the end. -/
def readComment (s : Scanner) (c : Char) (rest : List Char) : Scanner × List Char :=
  if c == '*' && rest.head? == some '/' then ({ s with mode := .between }, ['/']) else (s, [])

/-- Reads `c`, followed by `rest`, and the characters that it takes along. -/
def read (s : Scanner) (c : Char) (rest : List Char) : Scanner × List Char :=
  match s.mode with
  | .quote start line escaped => (s.readQuote start line escaped c, [])
  | .comment _ => s.readComment c rest
  | .between | .word .. => s.readPlain c rest

def past (s : Scanner) (cs : List Char) : Scanner := { s with place := s.place.past cs }

def scan (s : Scanner) : List Char → Scanner
  | [] => s
  | c :: rest =>
    let (next, along) := s.read c rest
    scan (next.past (c :: along)) (rest.drop along.length)
termination_by cs => cs.length
decreasing_by
  rw [List.length_drop, List.length_cons]
  omega

/-- A scanner between tokens that has found `tokens` up to here. -/
def between (place : Cursor) (tokens : List Token) : Scanner := ⟨place, .between, [], tokens⟩

def run (source : String) : Scanner := scan (between .start []) source.toList

/-- What the log says when the source ends here. -/
def message? (s : Scanner) : Option String :=
  match s.mode with
  | .between => none
  | .word _ line => some (Leftover.message ⟨.word, line, String.ofList s.buffer⟩)
  | .quote _ line _ => some (Leftover.message ⟨.quote, line, String.ofList s.buffer⟩)
  | .comment line => some (Leftover.message ⟨.comment, line, String.ofList s.buffer⟩)

end Scanner

/-! ### Places -/

namespace Cursor

private theorem past_append (place : Cursor) (front back : List Char) :
    place.past (front ++ back) = (place.past front).past back := by
  simp only [past, Text.byteLength_append, List.count_append, Nat.add_assoc]

private theorem past_nil (place : Cursor) : place.past [] = place := rfl

private theorem past_cons (place : Cursor) (c : Char) (cs : List Char) :
    place.past (c :: cs) = (place.past [c]).past cs := place.past_append [c] cs

end Cursor

namespace Scanner

variable {s next : Scanner} {c : Char} {cs rest along body after : List Char} {place : Cursor}
  {start line : Nat} {buffer : List Char} {ts : List Token}

private theorem scan_cons (reads : s.read c rest = (next, along)) :
    s.scan (c :: rest) = (next.past (c :: along)).scan (rest.drop along.length) := by
  rw [scan, reads]

/-- A character that is read by itself. -/
theorem scan_alone (reads : s.read c rest = (next, [])) : s.scan (c :: rest) = (next.past [c]).scan rest :=
  scan_cons reads

/-! ### Words -/

/-- What ends no word joins the word that is being read, or begins one. -/
theorem readPlain_word (goesOn : Lexeme.endsWord c rest = false) :
    s.readPlain c rest =
      ({ s with
          mode := if s.mode = .between then .word s.place.offset s.place.line else s.mode,
          buffer := s.buffer ++ [c] }, []) := by
  simp only [Lexeme.endsWord, Lexeme.opensComment, Bool.or_eq_false_iff, Bool.and_or_distrib_left] at goesOn
  obtain ⟨⟨⟨notBlank, notQuote⟩, notMark⟩, notLine, notBlock⟩ := goesOn
  simp only [readPlain, notBlank, notQuote, notMark, notLine, notBlock, Bool.false_eq_true, if_false]

private theorem scan_word : scan ⟨place, .word start line, buffer, ts⟩ cs =
    scan ⟨place.past (Lexeme.splitWord cs).1, .word start line, buffer ++ (Lexeme.splitWord cs).1, ts⟩
      (Lexeme.splitWord cs).2 := by
  induction cs generalizing place buffer with
  | nil => simp [Lexeme.splitWord, Cursor.past_nil]
  | cons c rest ih =>
    cases ends : Lexeme.endsWord c rest with
    | true => simp [Lexeme.splitWord, ends, Cursor.past_nil]
    | false =>
      have reads : read ⟨place, .word start line, buffer, ts⟩ c rest =
          (⟨place, .word start line, buffer ++ [c], ts⟩, []) := by
        rw [read, readPlain_word ends, if_neg Mode.noConfusion]
      rw [scan_alone reads, past, ih]
      simp only [Lexeme.splitWord, ends, Bool.false_eq_true, if_false]
      rw [← Cursor.past_cons, List.append_assoc, List.singleton_append]

private theorem mode_flush : s.flush.mode = .between := by
  unfold flush
  split <;> rfl

private theorem place_flush : s.flush.place = s.place := by
  unfold flush
  split <;> rfl

private theorem flush_of_between (between : s.mode = .between) : s.flush = s := by
  obtain ⟨place, mode, buffer, ts⟩ := s
  cases between
  rfl

/-- At the end of a word the scanner emits the word and reads on as between tokens. -/
theorem scan_flush (inWord : s.mode = .word start line) (ends : Lexeme.endsWord c rest = true) :
    s.scan (c :: rest) = s.flush.scan (c :: rest) := by
  have same : s.readPlain c rest = s.flush.readPlain c rest := by
    simp only [Lexeme.endsWord, Lexeme.opensComment, Bool.and_or_distrib_left] at ends
    unfold readPlain
    rw [flush_of_between mode_flush, place_flush]
    grind
  have reads : s.read c rest = s.flush.read c rest := by
    rw [read, read, inWord, mode_flush, same]
  rw [scan, scan, reads]

/-! ### String literals -/

private theorem scan_opensLiteral : scan (between place ts) ('"' :: rest) =
    scan ⟨place.past ['"'], .quote place.offset place.line false, ['"'], ts⟩ rest := by
  rw [scan_alone rfl]
  rfl

/-- A backslash in a string literal and the character behind it are read without ending the literal. -/
theorem scan_pair : scan ⟨place, .quote start line false, buffer, ts⟩ ('\\' :: c :: rest) =
    scan ⟨place.past ['\\', c], .quote start line false, buffer ++ ['\\', c], ts⟩ rest := by
  rw [scan_alone rfl, scan_alone rfl, Cursor.past_cons, List.append_cons]
  rfl

/-- A character that neither ends a string literal nor escapes another one is read into it. -/
theorem scan_inside (plain : c ≠ '\\') (inside : c ≠ '"') :
    scan ⟨place, .quote start line false, buffer, ts⟩ (c :: rest) =
      scan ⟨place.past [c], .quote start line false, buffer ++ [c], ts⟩ rest := by
  rw [scan_alone rfl, readQuote, if_neg Bool.false_ne_true, if_neg plain, if_neg inside, past]

private theorem scan_quote (found : Lexeme.splitQuote cs = some (body, after)) :
    scan ⟨place, .quote start line false, buffer, ts⟩ cs =
      scan (between (place.past (body ++ ['"'])) (ts ++ [{
        kind := .stringLiteral, text := String.ofList (buffer ++ (body ++ ['"'])), line, scope := place.scope,
        span := ⟨start, (place.past (body ++ ['"'])).offset⟩ }])) after := by
  fun_induction Lexeme.splitQuote cs generalizing body after place buffer with
  | case1 => cases found
  | case2 => cases found
  | case3 c rest ih =>
    obtain ⟨⟨inner, behind⟩, inside, same⟩ := Option.map_eq_some_iff.mp found
    cases same
    rw [scan_pair, ih inside, ← Cursor.past_append, List.append_assoc]
    rfl
  | case4 rest =>
    cases found
    rw [scan_alone rfl]
    rfl
  | case5 c rest notOnly notPair notQuote ih =>
    obtain ⟨⟨inner, behind⟩, inside, same⟩ := Option.map_eq_some_iff.mp found
    cases same
    have plain := Lexeme.ne_backslash notOnly notPair
    rw [scan_inside plain notQuote, ih inside, ← Cursor.past_append, List.append_assoc]
    rfl

/-- A string literal that never ends keeps the scanner to the end of the text. -/
theorem scan_openQuote (never : Lexeme.splitQuote cs = none) :
    ∃ escaped, scan ⟨place, .quote start line false, buffer, ts⟩ cs =
      ⟨place.past cs, .quote start line escaped, buffer ++ cs, ts⟩ := by
  fun_induction Lexeme.splitQuote cs generalizing place buffer with
  | case1 =>
    refine ⟨false, ?_⟩
    rw [scan, Cursor.past_nil, List.append_nil]
  | case2 =>
    refine ⟨true, ?_⟩
    rw [scan_alone rfl, scan]
    rfl
  | case3 c rest ih =>
    obtain ⟨escaped, same⟩ := ih (Option.map_eq_none_iff.mp never)
    refine ⟨escaped, ?_⟩
    rw [scan_pair, same, ← Cursor.past_append, List.append_assoc]
    rfl
  | case4 => cases never
  | case5 c rest notOnly notPair notQuote ih =>
    obtain ⟨escaped, same⟩ := ih (Option.map_eq_none_iff.mp never)
    refine ⟨escaped, ?_⟩
    rw [scan_inside (Lexeme.ne_backslash notOnly notPair) notQuote, same, ← Cursor.past_append,
      List.append_assoc]
    rfl

/-! ### Block comments -/

private theorem scan_opensBlock : scan (between place ts) ('/' :: '*' :: rest) =
    scan ⟨place.past ['/', '*'], .comment place.line, [], ts⟩ rest := by
  rw [scan_cons rfl]
  rfl

/-- What does not end a block comment is read without a trace. -/
theorem scan_commented (noEnd : ∀ tail, c = '*' → rest = '/' :: tail → False) :
    scan ⟨place, .comment line, [], ts⟩ (c :: rest) = scan ⟨place.past [c], .comment line, [], ts⟩ rest := by
  have goesOn : (c == '*' && rest.head? == some '/') = false := by
    cases rest with
    | nil => simp
    | cons d tail =>
      simp only [List.head?_cons, Bool.and_eq_false_iff, beq_eq_false_iff_ne, ne_eq, Option.some.injEq]
      by_cases star : c = '*'
      · right
        rintro rfl
        exact noEnd tail star rfl
      · exact .inl star
  have reads : read ⟨place, .comment line, [], ts⟩ c rest = (⟨place, .comment line, [], ts⟩, []) := by
    rw [read, readComment, goesOn, if_neg Bool.false_ne_true]
  rw [scan_alone reads, past]

private theorem scan_comment (found : Lexeme.splitComment cs = some (body, after)) :
    scan ⟨place, .comment line, [], ts⟩ cs = scan (between (place.past (body ++ ['*', '/'])) ts) after := by
  fun_induction Lexeme.splitComment cs generalizing body after place with
  | case1 => cases found
  | case2 rest =>
    cases found
    rw [scan_cons rfl]
    rfl
  | case3 c rest noEnd ih =>
    obtain ⟨⟨inner, behind⟩, inside, same⟩ := Option.map_eq_some_iff.mp found
    cases same
    rw [scan_commented noEnd, ih inside, ← Cursor.past_append]
    rfl

/-- A block comment that never ends keeps the scanner to the end of the text. -/
theorem scan_openComment (never : Lexeme.splitComment cs = none) :
    scan ⟨place, .comment line, [], ts⟩ cs = ⟨place.past cs, .comment line, [], ts⟩ := by
  fun_induction Lexeme.splitComment cs generalizing place with
  | case1 => rw [scan, Cursor.past_nil]
  | case2 => cases never
  | case3 c rest noEnd ih =>
    rw [scan_commented noEnd, ih (Option.map_eq_none_iff.mp never), ← Cursor.past_append]
    rfl

/-! ### Lexemes -/

private theorem scan_blank (blank : c ∈ [' ', '\t', '\r', '\n']) :
    scan (between place ts) (c :: rest) = scan (between (place.past [c]) ts) rest := by
  have reads : read (between place ts) c rest = (between place ts, []) := by
    rw [read, between, readPlain, Lexeme.isBlank_iff.mpr blank, if_pos rfl, flush]
  rw [scan_alone reads]
  rfl

private theorem scan_lineComment (same : '\n' ∉ body) (stops : rest = [] ∨ rest.head? = some '\n') :
    scan (between place ts) ('/' :: '/' :: (body ++ rest)) =
      scan (between (place.past ('/' :: '/' :: body)) ts) rest := by
  have line : ('/' :: (body ++ rest)).takeWhile (· != '\n') = '/' :: body := by
    rw [List.takeWhile_cons, if_pos (by decide), (Lexeme.takeWhile_line same stops).1]
  have reads : read (between place ts) '/' ('/' :: (body ++ rest)) = (between place ts, '/' :: body) := by
    rw [← line]
    rfl
  have behind : ('/' :: (body ++ rest)).drop ('/' :: body).length = rest := by
    rw [List.length_cons, List.drop_succ_cons, List.drop_left]
  rw [scan_cons reads, behind]
  rfl

private theorem scan_blockComment (inside : Lexeme.Commented body) :
    scan (between place ts) ('/' :: '*' :: (body ++ '*' :: '/' :: rest)) =
      scan (between (place.past (Lexeme.blockComment body).chars) ts) rest := by
  rw [scan_opensBlock, scan_comment (Lexeme.splitComment_of_commented inside), ← Cursor.past_append]
  rfl

private theorem scan_literal (inside : Lexeme.Quoted body) (ends : ¬ Lexeme.Escaped body) :
    scan (between place ts) ('"' :: (body ++ '"' :: rest)) =
      scan (between (place.after (.quote body)) (ts ++ (place.token? (.quote body)).toList)) rest := by
  rw [scan_opensLiteral, scan_quote (Lexeme.splitQuote_of_quoted inside ends), ← Cursor.past_append]
  rfl

private theorem scan_mark (mark : c ∈ ['{', '}', '=', ';', '+', '-', '(', ')', ',']) :
    scan (between place ts) (c :: rest) =
      scan (between (place.after (.mark c)) (ts ++ (place.token? (.mark c)).toList)) rest := by
  have reads : read (between place ts) c rest = ((between place ts).readMark c, []) := by
    simp only [List.mem_cons, List.not_mem_nil, or_false] at mark
    rcases mark with rfl | rfl | rfl | rfl | rfl | rfl | rfl | rfl | rfl <;> rfl
  rw [scan_alone reads]
  rfl

/-- The scanner reads a word up to the text at which it stops. -/
theorem scan_toStop (runs : Lexeme.Runs (c :: cs) rest) (stops : rest = [] ∨ Lexeme.Stops rest) :
    scan (between place ts) (c :: (cs ++ rest)) =
      scan ⟨place.past (c :: cs), .word place.offset place.line, c :: cs, ts⟩ rest := by
  obtain ⟨goesOn, onward⟩ := Lexeme.runs_cons.mp runs
  have begins : scan (between place ts) (c :: (cs ++ rest)) =
      scan ⟨place.past [c], .word place.offset place.line, [c], ts⟩ (cs ++ rest) := by
    have plain : Lexeme.endsWord c (cs ++ rest) = false :=
      Bool.eq_false_iff.mpr (mt Lexeme.endsWord_iff.mp goesOn)
    have reads : read (between place ts) c (cs ++ rest) =
        (⟨place, .word place.offset place.line, [c], ts⟩, []) := readPlain_word plain
    exact scan_alone reads
  rw [begins, scan_word, Lexeme.splitWord_of_runs onward stops, ← Cursor.past_append]
  rfl

private theorem scan_wholeWord (runs : Lexeme.Runs (c :: cs) rest) (stops : Lexeme.Stops rest) :
    scan (between place ts) (c :: (cs ++ rest)) =
      scan (between (place.after (.word (c :: cs))) (ts ++ (place.token? (.word (c :: cs))).toList)) rest := by
  rw [scan_toStop runs (.inr stops)]
  cases rest with
  | nil => exact stops.elim
  | cons d rest =>
    rw [scan_flush rfl (Lexeme.endsWord_iff.mpr stops)]
    rfl

/-- The scanner reads a finished lexeme, finds its token, if it is one, and is then between tokens. -/
theorem scan_cuts {lexeme : Lexeme} (cuts : Lexeme.Cuts cs lexeme rest)
    (finished : ∀ what piece, lexeme ≠ .unfinished what piece) : scan (between place ts) cs =
      scan (between (place.after lexeme) (ts ++ (place.token? lexeme).toList)) rest := by
  have silent : ∀ place, scan (between place ts) rest = scan (between place (ts ++ [])) rest := by
    intro place
    rw [List.append_nil]
  cases cuts with
  | blank blank => exact (scan_blank blank).trans (silent _)
  | lineComment same stops => exact (scan_lineComment same stops).trans (silent _)
  | blockComment inside => exact (scan_blockComment inside).trans (silent _)
  | quote inside ends => exact scan_literal inside ends
  | mark mark => exact scan_mark mark
  | word runs stops => exact scan_wholeWord runs stops
  | openComment | openQuote | openWord => exact absurd rfl (finished _ _)

/-! ### Sources -/

/-- What the scanner has found in a text that is split into these lexemes, and what it is then in the middle
of. -/
structure Finds (s : Scanner) (place : Cursor) (ts : List Token) (lexemes : List Lexeme) : Prop where
  tokens : s.tokens = ts ++ placeTokens place lexemes
  message : s.message? = (leftoverFrom place lexemes).map Leftover.message

/-- The scanner goes on behind a finished lexeme with the token of the lexeme, if that is one. -/
theorem Finds.cons {behind : Cursor} {found : List Token} {lexeme : Lexeme} {lexemes : List Lexeme}
    (finished : ∀ what piece, lexeme ≠ .unfinished what piece) (moved : place.after lexeme = behind)
    (yields : ts ++ (place.token? lexeme).toList = found) (finds : s.Finds behind found lexemes) :
    s.Finds place ts (lexeme :: lexemes) := by
  subst moved yields
  constructor
  · rw [finds.tokens, placeTokens, List.append_assoc]
  · rw [finds.message, leftoverFrom.eq_3 _ _ _ finished]

/-- In every text the scanner finds the tokens of the lexemes into which the text is split. -/
theorem finds_of_splits {lexemes : List Lexeme} (splits : Lexeme.Splits cs lexemes) :
    (scan (between place ts) cs).Finds place ts lexemes := by
  induction splits generalizing place ts with
  | nil =>
    rw [scan]
    exact ⟨(List.append_nil ts).symm, rfl⟩
  | @cons cs rest lexeme _ cuts splits ih =>
    by_cases finished : ∀ what piece, lexeme ≠ .unfinished what piece
    · rw [scan_cuts cuts finished]
      exact .cons finished rfl rfl ih
    cases cuts with
    | blank | lineComment | blockComment | quote | mark | word => exact absurd nofun finished
    | openComment inside =>
      obtain rfl := splits.eq_nil
      rw [scan_opensBlock, scan_openComment (Lexeme.splitComment_eq_none_iff.mpr inside)]
      exact ⟨(List.append_nil ts).symm, rfl⟩
    | openQuote inside =>
      obtain rfl := splits.eq_nil
      obtain ⟨escaped, ends⟩ := scan_openQuote (Lexeme.splitQuote_eq_none_iff.mpr inside)
      rw [scan_opensLiteral, ends]
      exact ⟨(List.append_nil ts).symm, rfl⟩
    | @openWord c cs runs =>
      obtain rfl := splits.eq_nil
      have ends : scan (between place ts) (c :: (cs ++ [])) = _ := scan_toStop runs (.inl rfl)
      rw [List.append_nil, scan] at ends
      rw [ends]
      exact ⟨(List.append_nil ts).symm, rfl⟩

/-- The scanner finds the tokens of a source. -/
theorem tokens_run (source : String) : (run source).tokens = tokenize source :=
  (finds_of_splits (Lexeme.splits_iff.mpr rfl)).tokens

/-- What the scanner is in the middle of at the end of a source is what the source leaves unfinished. -/
theorem message?_run (source : String) :
    (run source).message? = (leftover? source).map Leftover.message :=
  (finds_of_splits (Lexeme.splits_iff.mpr rfl)).message

end Scanner

end ScriptCheck
