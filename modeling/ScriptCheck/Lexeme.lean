/-! # Cutting a text into lexemes

A script is cut from left to right, and the first characters at each point choose the lexeme:

* a blank is a space, a tab, a carriage return or a line feed;
* `//` opens a comment that ends before the next line feed, `/*` one that ends after the first
  `*/` behind it;
* a quote opens a string literal that ends at the first quote without a backslash before it;
* one of the punctuation marks stands for itself;
* everything else begins a word, which goes on until a blank, a quote, a mark or a comment.

A string literal, a block comment and a word that run into the end of the text are unfinished.
`flatMap_chars_ofChars` says that cutting loses nothing: the lexemes of a text, written one after
the other, are the text.
-/

namespace ScriptCheck

/-- The lexemes that the end of the text can leave unfinished. -/
inductive Unfinished where
  | word
  | quote
  | comment
deriving DecidableEq, Repr

inductive Lexeme where
  | blank (c : Char)
  | lineComment (body : List Char)
  | blockComment (body : List Char)
  | quote (body : List Char)
  | mark (c : Char)
  | word (cs : List Char)
  | unfinished (what : Unfinished) (cs : List Char)
deriving DecidableEq, Repr

namespace Lexeme

/-- The characters that separate tokens. -/
def isBlank (c : Char) : Bool := c == ' ' || c == '\t' || c == '\r' || c == '\n'

/-- The characters that are tokens by themselves. -/
def isMark (c : Char) : Bool := ['{', '}', '=', ';', '+', '-', '(', ')', ','].contains c

/-- Whether a comment begins with `c`, followed by `rest`. -/
def opensComment (c : Char) (rest : List Char) : Bool :=
  c == '/' && (rest.head? == some '/' || rest.head? == some '*')

/-- Whether a word stops before `c`, followed by `rest`. -/
def endsWord (c : Char) (rest : List Char) : Bool :=
  isBlank c || c == '"' || isMark c || opensComment c rest

/-- The longest word at the front of a text, and what follows it. -/
def splitWord : List Char → List Char × List Char
  | [] => ([], [])
  | c :: rest =>
    if endsWord c rest then ([], c :: rest)
    else (c :: (splitWord rest).1, (splitWord rest).2)

/-- The body of a string literal up to its closing quote, and what follows the quote. -/
def splitQuote : List Char → Option (List Char × List Char)
  | [] => none
  | ['\\'] => none
  | '\\' :: c :: rest => (splitQuote rest).map fun p => ('\\' :: c :: p.1, p.2)
  | c :: rest =>
    if c = '"' then some ([], rest) else (splitQuote rest).map fun p => (c :: p.1, p.2)

/-- The body of a block comment up to `*/`, and what follows it. -/
def splitComment : List Char → Option (List Char × List Char)
  | [] => none
  | '*' :: '/' :: rest => some ([], rest)
  | c :: rest => (splitComment rest).map fun p => (c :: p.1, p.2)

def chars : Lexeme → List Char
  | blank c => [c]
  | lineComment body => '/' :: '/' :: body
  | blockComment body => '/' :: '*' :: body ++ ['*', '/']
  | quote body => '"' :: body ++ ['"']
  | mark c => [c]
  | word cs => cs
  | unfinished _ cs => cs

/-- A word, or an unfinished one at the end of the text. -/
def ofWord (cs after : List Char) : Lexeme :=
  if after.isEmpty then .unfinished .word cs else .word cs

@[simp] theorem chars_ofWord (cs after : List Char) : (ofWord cs after).chars = cs := by
  unfold ofWord
  split <;> rfl

/-- The lexeme at the front of the text `c :: rest`, and what follows it. -/
def first (c : Char) (rest : List Char) : Lexeme × List Char :=
  if isBlank c then (.blank c, rest)
  else if isMark c then (.mark c, rest)
  else if c = '"' then
    match splitQuote rest with
    | some (body, after) => (.quote body, after)
    | none => (.unfinished .quote (c :: rest), [])
  else if c = '/' && rest.head? == some '/' then
    (.lineComment (rest.tail.takeWhile (· != '\n')), rest.tail.dropWhile (· != '\n'))
  else if c = '/' && rest.head? == some '*' then
    match splitComment rest.tail with
    | some (body, after) => (.blockComment body, after)
    | none => (.unfinished .comment (c :: rest), [])
  else
    (ofWord (c :: (splitWord rest).1) (splitWord rest).2, (splitWord rest).2)

theorem splitWord_append (cs : List Char) : (splitWord cs).1 ++ (splitWord cs).2 = cs := by
  induction cs with
  | nil => rfl
  | cons c rest ih =>
    by_cases h : endsWord c rest
    · simp [splitWord, h]
    · simpa [splitWord, h] using ih

theorem splitQuote_append {cs body after : List Char} (h : splitQuote cs = some (body, after)) :
    body ++ '"' :: after = cs := by
  fun_induction splitQuote cs generalizing body after with
  | case1 => simp at h
  | case2 => simp at h
  | case3 c rest ih =>
    obtain ⟨⟨b, a⟩, found, same⟩ := Option.map_eq_some_iff.mp h
    cases same
    simp [ih found]
  | case4 rest => simp_all
  | case5 c rest _ _ _ ih =>
    obtain ⟨⟨b, a⟩, found, same⟩ := Option.map_eq_some_iff.mp h
    cases same
    simp [ih found]

theorem splitComment_append {cs body after : List Char}
    (h : splitComment cs = some (body, after)) : body ++ '*' :: '/' :: after = cs := by
  fun_induction splitComment cs generalizing body after with
  | case1 => simp at h
  | case2 rest => simp_all
  | case3 c rest _ ih =>
    obtain ⟨⟨b, a⟩, found, same⟩ := Option.map_eq_some_iff.mp h
    cases same
    simp [ih found]

/-- Cutting off the first lexeme loses no character. -/
theorem chars_first (c : Char) (rest : List Char) :
    (first c rest).1.chars ++ (first c rest).2 = c :: rest := by
  unfold first
  split
  · rfl
  split
  · rfl
  split
  · rename_i quote
    split
    · rename_i body after found
      simp [chars, quote, ← splitQuote_append found]
    · simp [chars]
  split
  · rename_i slash
    cases rest <;> simp_all [chars, List.takeWhile_append_dropWhile]
  split
  · rename_i star
    split
    · rename_i body after found
      have := splitComment_append found
      cases rest <;> simp_all [chars]
    · simp [chars]
  · simp [splitWord_append rest]

/-- A lexeme holds at least one character, so cutting makes progress. -/
theorem length_first (c : Char) (rest : List Char) :
    (first c rest).2.length < (c :: rest).length := by
  have whole := congrArg List.length (chars_first c rest)
  have nonempty : 0 < (first c rest).1.chars.length := by
    unfold first
    repeat' split
    all_goals simp only [chars_ofWord]
    all_goals simp [chars]
  simp only [List.length_append] at whole
  omega

def ofChars : List Char → List Lexeme
  | [] => []
  | c :: rest => (first c rest).1 :: ofChars (first c rest).2
termination_by cs => cs.length
decreasing_by exact length_first c rest

/-- The lexemes of a text are that text, taken apart. -/
theorem flatMap_chars_ofChars (cs : List Char) : (ofChars cs).flatMap chars = cs := by
  fun_induction ofChars cs with
  | case1 => rfl
  | case2 c rest ih => rw [List.flatMap_cons, ih, chars_first]

end Lexeme

end ScriptCheck
