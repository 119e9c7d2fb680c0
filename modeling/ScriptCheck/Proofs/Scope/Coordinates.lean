import ScriptCheck.Proofs.Token.Weights
import ScriptCheck.Tokenize

/-! # Coordinates read off the braces

A token stands at the coordinate that the brace tokens up to it lead to: its depth is the balance of
these braces and its region is their number. Nothing else in a source moves a coordinate, in
particular no brace inside a string literal or a comment. Here this is proved for the tokens of every
source; `scope_getElem?_of_le` is the form for two tokens, with the braces between them.
-/

namespace ScriptCheck

def Scope.past (scope : Scope) (ts : List Token) : Scope :=
  ⟨scope.depth + Token.balance ts, scope.region + Token.braces ts⟩

@[simp] theorem Scope.past_nil (scope : Scope) : scope.past [] = scope := by
  simp [Scope.past]

@[simp] theorem Scope.past_past (scope : Scope) (front back : List Token) :
    (scope.past front).past back = scope.past (front ++ back) := by
  simp only [Scope.past, Token.balance_append, Token.braces_append, Scope.mk.injEq]
  omega

/-! ### Words hold no braces -/

namespace Lexeme

private theorem not_isMark_of_mem_splitWord {cs : List Char} {c : Char} (member : c ∈ (splitWord cs).1) :
    isMark c = false := by
  induction cs with
  | nil => simp [splitWord] at member
  | cons d rest ih =>
    by_cases stop : endsWord d rest
    · simp [splitWord, stop] at member
    · simp only [splitWord, stop, Bool.false_eq_true, if_false, List.mem_cons] at member
      rcases member with rfl | member
      · simp only [endsWord, Bool.or_eq_true, not_or] at stop
        simpa using stop.1.2
      · exact ih member

private theorem not_isMark_of_first_word {d : Char} {rest cs : List Char}
    (word : (first d rest).1 = .word cs) {c : Char} (member : c ∈ cs) : isMark c = false := by
  unfold first at word
  split at word
  · cases word
  · split at word
    · cases word
    · rename_i plain
      repeat' split at word
      all_goals try cases word
      simp only [ofWord] at word
      split at word
      · cases word
      · cases word
        rcases List.mem_cons.mp member with rfl | member
        · simpa using plain
        · exact not_isMark_of_mem_splitWord member

private theorem not_isMark_of_mem_word {source cs : List Char} (word : .word cs ∈ ofChars source) {c : Char}
    (member : c ∈ cs) : isMark c = false := by
  fun_induction ofChars source with
  | case1 => cases word
  | case2 d rest ih =>
    rcases List.mem_cons.mp word with front | later
    · exact not_isMark_of_first_word front.symm member
    · exact ih later

end Lexeme

/-! ### One lexeme -/

private theorem Kind.ofText_eq_openScope {text : String} :
    Kind.ofText text = .openScope ↔ text = "\x7b" := by
  constructor
  · intro opens
    unfold Kind.ofText at opens
    split at opens <;> first | rfl | cases opens
  · rintro rfl
    rfl

private theorem Kind.ofText_eq_closeScope {text : String} :
    Kind.ofText text = .closeScope ↔ text = "\x7d" := by
  constructor
  · intro closes
    unfold Kind.ofText at closes
    split at closes <;> first | rfl | cases closes
  · rintro rfl
    rfl

/-- A text that is not a brace itself moves no coordinate. -/
private theorem past_ofText (scope : Scope) {t : Token} (cs : List Char)
    (kind : t.kind = .ofText (String.ofList cs)) (opening : cs ≠ ['{']) (closing : cs ≠ ['}']) :
    scope.past [t] = scope := by
  have notOpen : t.kind ≠ .openScope := by
    rw [kind, Ne, Kind.ofText_eq_openScope]
    exact fun same => opening (String.ofList_injective same)
  have notClose : t.kind ≠ .closeScope := by
    rw [kind, Ne, Kind.ofText_eq_closeScope]
    exact fun same => closing (String.ofList_injective same)
  have light : t.kind.weight = 0 := by
    unfold Kind.weight
    split <;> simp_all
  simp [Scope.past, light, Kind.isScope, notOpen, notClose]

private theorem Cursor.scope_of_token? {place : Cursor} {lexeme : Lexeme} {t : Token}
    (yields : place.token? lexeme = some t) : t.scope = (place.after lexeme).scope := by
  cases lexeme <;> cases yields <;> rfl

/-- A lexeme moves the coordinate exactly as its token does, if it has one. -/
theorem Cursor.scope_after (place : Cursor) (lexeme : Lexeme)
    (plain : ∀ cs, lexeme = .word cs → ∀ c ∈ cs, Lexeme.isMark c = false) :
    (place.after lexeme).scope = place.scope.past (place.token? lexeme).toList := by
  cases lexeme with
  | mark c =>
    change place.scope.after c = place.scope.past [_]
    by_cases opening : c = '{'
    · subst opening
      rfl
    by_cases closing : c = '}'
    · subst closing
      rfl
    rw [past_ofText _ [c] rfl (by simpa using opening) (by simpa using closing)]
    simp [Scope.after, opening, closing]
  | word cs =>
    change place.scope = place.scope.past [_]
    refine (past_ofText _ cs rfl ?_ ?_).symm
    · rintro rfl
      exact absurd (plain _ rfl '{' (by simp)) (by decide)
    · rintro rfl
      exact absurd (plain _ rfl '}' (by simp)) (by decide)
  | quote body => simp [Cursor.after, Cursor.past, Cursor.token?, Scope.past, Kind.weight, Kind.isScope]
  | blank _ | lineComment _ | blockComment _ | unfinished _ _ =>
    simp [Cursor.after, Cursor.past, Cursor.token?]

/-! ### All tokens of a source -/

/-- The tokens behind position `p` up to position `q`, which is included. -/
def Token.between (ts : List Token) (p q : Nat) : List Token := (ts.take (q + 1)).drop (p + 1)

private theorem Token.take_append_between (ts : List Token) {p q : Nat} (ordered : p ≤ q) :
    ts.take (p + 1) ++ between ts p q = ts.take (q + 1) := by
  have short : ts.take (p + 1) = (ts.take (q + 1)).take (p + 1) := by
    rw [List.take_take, Nat.min_eq_left (by omega)]
  rw [short, between, List.take_append_drop]

private theorem scope_placeTokens {place : Cursor} {lexemes : List Lexeme}
    (plain : ∀ cs, .word cs ∈ lexemes → ∀ c ∈ cs, Lexeme.isMark c = false) {k : Nat} {t : Token}
    (found : (placeTokens place lexemes)[k]? = some t) :
    t.scope = place.scope.past ((placeTokens place lexemes).take (k + 1)) := by
  induction lexemes generalizing place k with
  | nil => simp [placeTokens] at found
  | cons lexeme rest ih =>
    have moved := place.scope_after lexeme
      fun cs word => plain cs (by rw [word]; exact List.mem_cons_self ..)
    have later := fun cs word => plain cs (List.mem_cons_of_mem lexeme word)
    simp only [placeTokens] at found ⊢
    cases yields : place.token? lexeme with
    | none =>
      simp only [yields, Option.toList_none, Scope.past_nil] at moved
      simp only [yields, Option.toList_none, List.nil_append] at found ⊢
      rw [ih later found, moved]
    | some u =>
      simp only [yields, Option.toList_some] at moved
      simp only [yields, Option.toList_some, List.singleton_append] at found ⊢
      cases k with
      | zero =>
        simp only [List.getElem?_cons_zero, Option.some.injEq] at found
        subst found
        rw [Cursor.scope_of_token? yields, moved]
        rfl
      | succ k =>
        rw [List.getElem?_cons_succ] at found
        rw [ih later found, moved, Scope.past_past]
        rfl

/-- A token stands where the braces up to it lead, its own included. -/
theorem scope_getElem? {source : String} {k : Nat} {t : Token}
    (found : (tokenize source)[k]? = some t) :
    t.scope = Scope.outermost.past ((tokenize source).take (k + 1)) :=
  scope_placeTokens (fun _ word _ member => Lexeme.not_isMark_of_mem_word word member) found

/-- From one token to a later one, the coordinate moves as the braces between them say. -/
theorem scope_getElem?_of_le {source : String} {p q : Nat} {d u : Token} (ordered : p ≤ q)
    (declared : (tokenize source)[p]? = some d) (used : (tokenize source)[q]? = some u) :
    u.scope = d.scope.past (Token.between (tokenize source) p q) := by
  rw [scope_getElem? declared, scope_getElem? used, Scope.past_past,
    Token.take_append_between _ ordered]

/-- A token that is no brace stands where the token before it does. -/
theorem scope_getElem?_succ {source : String} {p : Nat} {d u : Token}
    (before : (tokenize source)[p]? = some d) (read : (tokenize source)[p + 1]? = some u)
    (plain : u.kind.isScope = false) : u.scope = d.scope := by
  have between : Token.between (tokenize source) p (p + 1) = [u] := by
    rw [Token.between, List.drop_take, Nat.add_sub_cancel_left, List.take_one, List.head?_drop, read]
    rfl
  have none : Token.braces [u] = 0 := by simp [plain]
  rw [scope_getElem?_of_le (Nat.le_succ p) before read, between, Scope.past, none,
    Token.balance_eq_zero_of_braces none]
  simp

end ScriptCheck
