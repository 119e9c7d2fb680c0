import ScriptCheck.Proofs.Scope.Coordinates
import ScriptCheck.Proofs.Token.Lines

/-! # The places of tokens

A token stands on the line on which its first byte stands, and at the coordinate to which the braces up to it
lead, its own included (`tokenize_placed`). The line feeds and the braces are counted in different ways: every line
feed of the source counts for the lines, also one in a comment or in a string literal, and for the coordinates only
those braces count that are tokens.
-/

namespace ScriptCheck

namespace Text

def before : List Char → Nat → List Char
  | [], _ => []
  | c :: rest, byte => if byte = 0 then [] else c :: before rest (byte - c.utf8Size)

private theorem before_append (front back : List Char) : before (front ++ back) (byteLength front) = front := by
  induction front with
  | nil => cases back <;> rfl
  | cons c rest ih =>
    have positive := c.utf8Size_pos
    rw [List.cons_append, before, byteLength, if_neg (by omega), Nat.add_sub_cancel_left, ih]

end Text

/-- The line on which a byte of a source stands: one more than there are line feeds before it. -/
def lineAt (source : String) (byte : Nat) : Nat := 1 + (Text.before source.toList byte).count '\n'

/-- The span covers characters of the source: it is not empty, it begins and ends between two characters, and it
does not reach beyond the end. -/
structure Span.Covers (span : Span) (source : String) : Prop where
  nonempty : span.start < span.stop
  within : span.stop ≤ source.utf8ByteSize
  start : String.Pos.Raw.IsValid source ⟨span.start⟩
  stop : String.Pos.Raw.IsValid source ⟨span.stop⟩

/-! ### Where the lexeme of a token stands -/

variable {source : String} {place : Cursor} {lexeme : Lexeme} {lexemes : List Lexeme} {t : Token}

private theorem Cursor.line_of_token? (yields : place.token? lexeme = some t) : t.line = place.line := by
  cases lexeme <;> cases yields <;> rfl

private theorem Cursor.shows_of_token? (yields : place.token? lexeme = some t) : t.Shows (place.offset, lexeme) := by
  cases shown : lexeme.isToken with
  | true =>
    obtain ⟨u, found, shows⟩ := place.exists_token? shown
    obtain rfl : u = t := Option.some.inj (found.symm.trans yields)
    exact shows
  | false =>
    rw [Cursor.token?_eq_none shown] at yields
    cases yields

/-- A token is that of a lexeme, at the place behind the lexemes before it. -/
theorem exists_token?_of_mem (member : t ∈ placeTokens place lexemes) :
    ∃ front lexeme back, lexemes = front ++ lexeme :: back ∧
      (front.foldl Cursor.after place).token? lexeme = some t := by
  induction lexemes generalizing place with
  | nil => cases member
  | cons lexeme rest ih =>
    rw [placeTokens, List.mem_append, Option.mem_toList] at member
    rcases member with here | later
    · exact ⟨[], lexeme, rest, rfl, here⟩
    · obtain ⟨front, other, back, rfl, yields⟩ := ih later
      exact ⟨lexeme :: front, other, back, rfl, yields⟩

/-- A source is what stands before a token, the text of the token, and what stands behind it. -/
theorem exists_split_of_mem_tokenize (member : t ∈ tokenize source) :
    ∃ front back : String, source = front ++ t.text ++ back ∧
      t.span = ⟨front.utf8ByteSize, (front ++ t.text).utf8ByteSize⟩ ∧
      t.line = 1 + front.toList.count '\n' := by
  obtain ⟨front, lexeme, back, whole, yields⟩ := exists_token?_of_mem member
  obtain ⟨offset, line⟩ := foldl_after .start front
  have shows := Cursor.shows_of_token? yields
  refine ⟨.ofList (front.flatMap Lexeme.chars), .ofList (back.flatMap Lexeme.chars), ?_, ?_, ?_⟩
  · have same := Lexeme.flatMap_chars_ofChars source.toList
    rw [whole, List.flatMap_append, List.flatMap_cons, ← List.append_assoc] at same
    rw [shows.text, ← String.ofList_append, ← String.ofList_append, same, String.ofList_toList]
  · rw [shows.span, shows.text, ← String.ofList_append, ← Text.byteLength_toList, ← Text.byteLength_toList,
      String.toList_ofList, String.toList_ofList, Text.byteLength_append, offset]
    simp [Cursor.start]
  · rw [Cursor.line_of_token? yields, line, String.toList_ofList]
    rfl

/-- A token stands on the line on which its first byte stands. -/
theorem line_of_mem_tokenize (member : t ∈ tokenize source) : t.line = lineAt source t.span.start := by
  obtain ⟨front, back, rfl, span, line⟩ := exists_split_of_mem_tokenize member
  rw [line, span, lineAt, String.append_assoc, String.toList_append, ← Text.byteLength_toList, Text.before_append]

/-- A token covers its own characters. -/
theorem covers_of_mem_tokenize (member : t ∈ tokenize source) : t.span.Covers source := by
  have nonempty := start_lt_stop_of_mem_tokenize member
  obtain ⟨front, back, rfl, span, _⟩ := exists_split_of_mem_tokenize member
  refine ⟨nonempty, ?_, ?_, ?_⟩
  · rw [span, String.utf8ByteSize_append (s := front ++ t.text)]
    exact Nat.le_add_right ..
  · rw [span, String.append_assoc]
    exact String.Pos.Raw.isValid_iff_exists_append.mpr ⟨front, t.text ++ back, rfl, rfl⟩
  · rw [span]
    exact String.Pos.Raw.isValid_iff_exists_append.mpr ⟨front ++ t.text, back, rfl, rfl⟩

/-- Different tokens of a source stand at different bytes. -/
theorem position_eq_of_span_eq {source : String} {j k : Nat} {t u : Token} (first : (tokenize source)[j]? = some t)
    (second : (tokenize source)[k]? = some u) (same : t.span = u.span) : j = k := by
  have ordered := List.pairwise_iff_getElem.mp (ordered_tokenize source)
  obtain ⟨inFirst, isFirst⟩ := List.getElem?_eq_some_iff.mp first
  obtain ⟨inSecond, isSecond⟩ := List.getElem?_eq_some_iff.mp second
  have nonempty := start_lt_stop_of_mem_tokenize (List.mem_of_getElem? first)
  rcases Nat.lt_trichotomy j k with before | equal | behind
  · have apart := ordered j k inFirst inSecond before
    rw [isFirst, isSecond, ← same] at apart
    omega
  · exact equal
  · have apart := ordered k j inSecond inFirst behind
    rw [isFirst, isSecond, ← same] at apart
    omega

/-! ### Coordinates -/

namespace Token

variable {ts : List Token} {p q : Nat} {v : Token}

private theorem mem_between_iff : v ∈ between ts p q ↔ ∃ l, p < l ∧ l ≤ q ∧ ts[l]? = some v := by
  rw [between, List.mem_iff_getElem?]
  constructor
  · rintro ⟨n, found⟩
    rw [List.getElem?_drop, List.getElem?_take] at found
    split at found
    · exact ⟨p + 1 + n, by omega, by omega, found⟩
    · cases found
  · rintro ⟨l, behind, within, found⟩
    refine ⟨l - (p + 1), ?_⟩
    rw [List.getElem?_drop, List.getElem?_take, Nat.add_sub_cancel' behind, if_pos (by omega), found]

private theorem braces_between_eq_zero_iff :
    braces (between ts p q) = 0 ↔ ∀ l v, p < l → l ≤ q → ts[l]? = some v → v.kind.isScope = false := by
  rw [braces, List.countP_eq_zero]
  constructor
  · intro plain l v behind within found
    exact Bool.eq_false_iff.mpr (plain v (mem_between_iff.mpr ⟨l, behind, within, found⟩))
  · intro plain v member
    obtain ⟨l, behind, within, found⟩ := mem_between_iff.mp member
    exact Bool.eq_false_iff.mp (plain l v behind within found)

end Token

/-- Some tokens lead back to where they begin only if there is no brace among them. -/
theorem Scope.past_eq_self_iff (scope : Scope) (ts : List Token) :
    scope.past ts = scope ↔ Token.braces ts = 0 := by
  constructor
  · intro same
    have region : scope.region + Token.braces ts = scope.region := congrArg Scope.region same
    omega
  · intro none
    rw [Scope.past, none, Token.balance_eq_zero_of_braces none, Int.add_zero, Nat.add_zero]

/-- A token of a source stands on the line on which its first byte stands. As many blocks are open at it as braces
up to it open more than they close, its region is the number of these braces, and a later token has the same
coordinate exactly if there is no brace behind the earlier one up to the later one. -/
theorem tokenize_placed {source : String} {k : Nat} {t : Token} (found : (tokenize source)[k]? = some t) :
    let upTo := (tokenize source).take (k + 1)
    t.line = lineAt source t.span.start ∧
      t.scope.depth =
        upTo.countP (fun u => u.kind == .openScope) - upTo.countP (fun u => u.kind == .closeScope) ∧
      t.scope.region = upTo.countP (fun u => u.kind.isScope) ∧
      ∀ j u, k ≤ j → (tokenize source)[j]? = some u →
        (u.scope = t.scope ↔
          ∀ l v, k < l → l ≤ j → (tokenize source)[l]? = some v → v.kind.isScope = false) := by
  have scope := scope_getElem? found
  refine ⟨line_of_mem_tokenize (List.mem_of_getElem? found), ?_, ?_, ?_⟩
  · rw [scope, ← Token.balance_eq_countP]
    exact Int.zero_add _
  · rw [scope]
    exact Nat.zero_add _
  · intro j u later used
    rw [scope_getElem?_of_le later found used, Scope.past_eq_self_iff, Token.braces_between_eq_zero_iff]

/-- The string literal behind a comment that is closed on its second line, in a block that is closed behind it:
neither the braces nor the line feeds inside of the two are tokens. -/
theorem placed_behind_comment :
    let source := "\x7b /* \x7b\n */ s=\"\x7d\n\";int a\x7d"
    (tokenize source)[3]? = some ⟨.stringLiteral, "\"\x7d\n\"", 2, ⟨1, 1⟩, ⟨13, 17⟩⟩ ∧
      lineAt source 13 = 2 ∧
      (tokenize source)[7]? = some ⟨.closeScope, "\x7d", 3, ⟨0, 2⟩, ⟨23, 24⟩⟩ ∧
      lineAt source 23 = 3 := by
  intro source
  have literal : (tokenize source)[3]? = some ⟨.stringLiteral, "\"\x7d\n\"", 2, ⟨1, 1⟩, ⟨13, 17⟩⟩ := by
    decide +kernel
  have brace : (tokenize source)[7]? = some ⟨.closeScope, "\x7d", 3, ⟨0, 2⟩, ⟨23, 24⟩⟩ := by decide +kernel
  exact ⟨literal, (tokenize_placed literal).1.symm, brace, (tokenize_placed brace).1.symm⟩

end ScriptCheck
