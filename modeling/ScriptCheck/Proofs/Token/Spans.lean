import Mathlib.Data.List.Forall2
import ScriptCheck.Proofs.Token.Scanner

/-! # Tokens and the bytes of a source

The tokens of a source are its string literals, marks and words in their order, each with its own bytes and
nothing else, and the scanner finds just these (`tokenize_scanned`). All other lexemes are blanks and comments,
but for one that the end of the source leaves unfinished.
-/

namespace ScriptCheck

/-! ### Bytes -/

namespace Text

private theorem byteLength_pos {cs : List Char} (nonempty : cs ≠ []) : 0 < byteLength cs := by
  cases cs with
  | nil => exact absurd rfl nonempty
  | cons c rest => exact Nat.lt_of_lt_of_le c.utf8Size_pos (Nat.le_add_right ..)

private theorem size_utf8Encode (cs : List Char) : cs.utf8Encode.size = byteLength cs := by
  induction cs with
  | nil => rfl
  | cons c rest ih =>
    rw [List.utf8Encode_cons, ByteArray.size_append, ih, List.utf8Encode_singleton,
      List.size_toByteArray, String.length_utf8EncodeChar, byteLength]

private theorem extract_utf8Encode (front part back : List Char) :
    (front ++ part ++ back).utf8Encode.extract (byteLength front) (byteLength front + byteLength part) =
      part.utf8Encode := by
  have size : (front.utf8Encode ++ part.utf8Encode).size = byteLength front + byteLength part := by
    rw [ByteArray.size_append, size_utf8Encode, size_utf8Encode]
  rw [List.utf8Encode_append, List.utf8Encode_append, ByteArray.extract_append, size, Nat.sub_self,
    ByteArray.extract_append_eq_right (size_utf8Encode front).symm (by simp only [size_utf8Encode])]
  simp

private theorem toUTF8_ofList (cs : List Char) : (String.ofList cs).toUTF8 = cs.utf8Encode := by
  rw [String.toUTF8_eq_toByteArray, String.toByteArray_ofList]

theorem byteLength_toList (s : String) : byteLength s.toList = s.utf8ByteSize := by
  rw [← size_utf8Encode, ← String.toByteArray_ofList, String.ofList_toList]
  rfl

end Text

/-! ### Lexemes and tokens -/

namespace Lexeme

def isToken : Lexeme → Bool
  | quote _ | mark _ | word _ => true
  | _ => false

def separates : Lexeme → Bool
  | blank _ | lineComment _ | blockComment _ => true
  | _ => false

def kind : Lexeme → Kind
  | quote _ => .stringLiteral
  | lexeme => .ofText (String.ofList lexeme.chars)

/-- Lexemes that stand one after the other from byte `start` on, each with the byte at which it begins. -/
def placed (start : Nat) : List Lexeme → List (Nat × Lexeme)
  | [] => []
  | lexeme :: rest => (start, lexeme) :: placed (start + Text.byteLength lexeme.chars) rest

end Lexeme

/-- The token is that of a lexeme at its place. -/
structure Token.Shows (t : Token) (place : Nat × Lexeme) : Prop where
  text : t.text = String.ofList place.2.chars
  kind : t.kind = place.2.kind
  span : t.span = ⟨place.1, place.1 + Text.byteLength place.2.chars⟩

/-- The tokens are those of the lexemes of a source: string literals, marks and words in their order, each
with the bytes of its span. -/
structure Scanned (source : String) (lexemes : List Lexeme) (ts : List Token) : Prop where
  shows : List.Forall₂ Token.Shows ts ((Lexeme.placed 0 lexemes).filter fun place => place.2.isToken)
  bytes : ∀ t ∈ ts, source.toUTF8.extract t.span.start t.span.stop = t.text.toUTF8
  nonempty : ∀ t ∈ ts, t.span.start < t.span.stop
  ordered : ts.Pairwise fun t u => t.span.stop ≤ u.span.start
  rest : ∀ front lexeme back, lexemes = front ++ lexeme :: back →
    lexeme.isToken = true ∨ lexeme.separates = true ∨
      ∃ what piece, lexeme = .unfinished what piece ∧ back = []

namespace Cursor

theorem offset_after (place : Cursor) (lexeme : Lexeme) :
    (place.after lexeme).offset = place.offset + Text.byteLength lexeme.chars := by
  cases lexeme <;> rfl

theorem line_after (place : Cursor) (lexeme : Lexeme) :
    (place.after lexeme).line = place.line + lexeme.chars.count '\n' := by
  cases lexeme <;> rfl

theorem token?_eq_none {place : Cursor} {lexeme : Lexeme} (silent : lexeme.isToken = false) :
    place.token? lexeme = none := by
  cases lexeme <;> first | rfl | cases silent

theorem exists_token? (place : Cursor) {lexeme : Lexeme} (shown : lexeme.isToken = true) :
    ∃ t, place.token? lexeme = some t ∧ t.Shows (place.offset, lexeme) := by
  cases lexeme with
  | quote body => exact ⟨_, rfl, rfl, rfl, rfl⟩
  | mark c => exact ⟨_, rfl, rfl, rfl, rfl⟩
  | word cs => exact ⟨_, rfl, rfl, rfl, rfl⟩
  | blank | lineComment | blockComment | unfinished => cases shown

end Cursor

private theorem shows_placeTokens (place : Cursor) (lexemes : List Lexeme) :
    List.Forall₂ Token.Shows (placeTokens place lexemes)
      ((Lexeme.placed place.offset lexemes).filter fun place => place.2.isToken) := by
  induction lexemes generalizing place with
  | nil => exact .nil
  | cons lexeme rest ih =>
    have later := ih (place.after lexeme)
    rw [Cursor.offset_after] at later
    rw [placeTokens, Lexeme.placed, List.filter_cons]
    cases shown : lexeme.isToken with
    | true =>
      obtain ⟨t, yields, shows⟩ := place.exists_token? shown
      rw [yields]
      exact .cons shows later
    | false =>
      rw [Cursor.token?_eq_none shown]
      exact later

namespace Lexeme

/-- A placed lexeme stands behind the bytes of those before it. -/
theorem exists_of_mem_placed {start : Nat} {lexemes : List Lexeme} {place : Nat × Lexeme}
    (member : place ∈ placed start lexemes) : ∃ front back, lexemes = front ++ place.2 :: back ∧
      place.1 = start + Text.byteLength (front.flatMap chars) := by
  induction lexemes generalizing start with
  | nil => cases member
  | cons lexeme rest ih =>
    rcases List.mem_cons.mp member with rfl | member
    · exact ⟨[], rest, rfl, rfl⟩
    · obtain ⟨front, back, rfl, begins⟩ := ih member
      refine ⟨lexeme :: front, back, rfl, ?_⟩
      rw [begins, List.flatMap_cons, Text.byteLength_append, Nat.add_assoc]

private theorem pairwise_placed (start : Nat) (lexemes : List Lexeme) :
    (placed start lexemes).Pairwise fun p q => p.1 + Text.byteLength p.2.chars ≤ q.1 := by
  induction lexemes generalizing start with
  | nil => exact .nil
  | cons lexeme rest ih =>
    refine .cons ?_ (ih _)
    intro place member
    obtain ⟨front, _, _, begins⟩ := exists_of_mem_placed member
    rw [begins]
    exact Nat.le_add_right ..

private theorem chars_ne_nil_of_cuts {cs rest : List Char} {lexeme : Lexeme} (cuts : Cuts cs lexeme rest) :
    lexeme.chars ≠ [] := by
  cases cuts <;> simp [chars]

private theorem Splits.chars_ne_nil {cs : List Char} {lexemes : List Lexeme} (splits : Splits cs lexemes) :
    ∀ lexeme ∈ lexemes, lexeme.chars ≠ [] := by
  induction splits with
  | nil => simp
  | cons cuts _ ih => exact List.forall_mem_cons.mpr ⟨chars_ne_nil_of_cuts cuts, ih⟩

end Lexeme

/-! ### The spans of a source -/

variable {ts : List Token} {places : List (Nat × Lexeme)} {t : Token}

theorem exists_place_of_mem (shows : List.Forall₂ Token.Shows ts places) (member : t ∈ ts) :
    ∃ place ∈ places, t.Shows place := by
  induction shows with
  | nil => cases member
  | cons here _ ih =>
    rcases List.mem_cons.mp member with rfl | member
    · exact ⟨_, List.mem_cons_self .., here⟩
    · obtain ⟨place, within, shown⟩ := ih member
      exact ⟨place, List.mem_cons_of_mem _ within, shown⟩

/-- Tokens are in the order of the places at which their lexemes stand. -/
theorem ordered_of_shows (shows : List.Forall₂ Token.Shows ts places)
    (ordered : places.Pairwise fun p q => p.1 + Text.byteLength p.2.chars ≤ q.1) :
    ts.Pairwise fun t u => t.span.stop ≤ u.span.start := by
  induction shows with
  | nil => exact .nil
  | cons here rest ih =>
    obtain ⟨first, later⟩ := List.pairwise_cons.mp ordered
    refine .cons ?_ (ih later)
    intro u member
    obtain ⟨place, within, shown⟩ := exists_place_of_mem rest member
    rw [here.span, shown.span]
    exact first place within

/-- The bytes of the span at which a lexeme stands are those of the lexeme. -/
theorem extract_of_mem_placed {source : String} {lexemes : List Lexeme} {place : Nat × Lexeme}
    (whole : lexemes.flatMap Lexeme.chars = source.toList) (member : place ∈ Lexeme.placed 0 lexemes) :
    source.toUTF8.extract place.1 (place.1 + Text.byteLength place.2.chars) =
      (String.ofList place.2.chars).toUTF8 := by
  obtain ⟨front, back, rfl, begins⟩ := Lexeme.exists_of_mem_placed member
  rw [List.flatMap_append, List.flatMap_cons, ← List.append_assoc] at whole
  rw [Nat.zero_add] at begins
  rw [← String.ofList_toList (s := source), ← whole, Text.toUTF8_ofList, Text.toUTF8_ofList, begins]
  exact Text.extract_utf8Encode ..

/-! ### The tokens of a source -/

section

variable {source : String}

theorem splits_source (source : String) : Lexeme.Splits source.toList (Lexeme.ofChars source.toList) :=
  Lexeme.splits_iff.mpr rfl

theorem shows_tokenize (source : String) : List.Forall₂ Token.Shows (tokenize source)
    ((Lexeme.placed 0 (Lexeme.ofChars source.toList)).filter fun place => place.2.isToken) :=
  shows_placeTokens .start (Lexeme.ofChars source.toList)

private theorem exists_place_of_mem_tokenize (member : t ∈ tokenize source) :
    ∃ place ∈ Lexeme.placed 0 (Lexeme.ofChars source.toList), t.Shows place := by
  obtain ⟨place, within, shown⟩ := exists_place_of_mem (shows_tokenize source) member
  exact ⟨place, (List.mem_filter.mp within).1, shown⟩

/-- The text of a token is what stands at its span. -/
theorem bytes_of_mem_tokenize (member : t ∈ tokenize source) :
    source.toUTF8.extract t.span.start t.span.stop = t.text.toUTF8 := by
  obtain ⟨place, within, shown⟩ := exists_place_of_mem_tokenize member
  rw [shown.span, shown.text]
  exact extract_of_mem_placed (splits_source source).flatMap_chars within

/-- No token is empty. -/
theorem start_lt_stop_of_mem_tokenize (member : t ∈ tokenize source) : t.span.start < t.span.stop := by
  obtain ⟨place, within, shown⟩ := exists_place_of_mem_tokenize member
  obtain ⟨front, back, whole, _⟩ := Lexeme.exists_of_mem_placed within
  have nonempty := (splits_source source).chars_ne_nil place.2 (by rw [whole]; simp)
  rw [shown.span]
  exact Nat.lt_add_of_pos_right (Text.byteLength_pos nonempty)

/-- Each token ends before the next one begins. -/
theorem ordered_tokenize (source : String) :
    (tokenize source).Pairwise fun t u => t.span.stop ≤ u.span.start :=
  ordered_of_shows (shows_tokenize source) ((Lexeme.pairwise_placed 0 _).filter _)

end

/-- What is no token of a split separates tokens or is left unfinished at the end. -/
theorem Lexeme.Splits.isToken_or_separates {cs : List Char} {lexeme : Lexeme} {front back : List Lexeme}
    (splits : Splits cs (front ++ lexeme :: back)) : lexeme.isToken = true ∨ lexeme.separates = true ∨
      ∃ what piece, lexeme = .unfinished what piece ∧ back = [] := by
  cases lexeme with
  | quote | mark | word => exact .inl rfl
  | blank | lineComment | blockComment => exact .inr (.inl rfl)
  | unfinished what piece => exact .inr (.inr ⟨what, piece, rfl, splits.last_of_unfinished⟩)

/-- A source has exactly one split into lexemes that follows the grammar, and the tokens that the scanner
finds in it are those of the string literals, marks and words of that split. -/
theorem tokenize_scanned (source : String) :
    (Scanner.run source).tokens = tokenize source ∧
      ∃ lexemes, (∀ other, Lexeme.Splits source.toList other ↔ other = lexemes) ∧
        Scanned source lexemes (tokenize source) := by
  refine ⟨Scanner.tokens_run source, Lexeme.ofChars source.toList, fun other => Lexeme.splits_iff, ?_⟩
  constructor
  · exact shows_tokenize source
  · exact fun t member => bytes_of_mem_tokenize member
  · exact fun t member => start_lt_stop_of_mem_tokenize member
  · exact ordered_tokenize source
  · intro front lexeme back whole
    have splits := splits_source source
    rw [whole] at splits
    exact splits.isToken_or_separates

end ScriptCheck
