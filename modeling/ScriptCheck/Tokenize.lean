import ScriptCheck.Lexeme
import ScriptCheck.Token
import ScriptCheck.Text.Bytes

/-! # Placing tokens

String literals, marks and words are tokens; blanks and comments only move the place on. A token
carries the line and the byte range of its lexeme. A brace already stands at the coordinate that it
opens or returns to. A word, a string literal or a block comment that the end of the text leaves
unfinished yields no token.
-/

namespace ScriptCheck

/-- A place between two characters of a source. -/
structure Cursor where
  offset : Nat
  line : Nat
  scope : Scope
deriving DecidableEq, Repr

namespace Cursor

def start : Cursor := ⟨0, 1, .outermost⟩

/-- The place after some characters that open and close no block. -/
def past (place : Cursor) (cs : List Char) : Cursor :=
  { place with offset := place.offset + Text.byteLength cs, line := place.line + cs.count '\n' }

/-- The place after a lexeme. Only a mark can be a brace that opens or closes a block. -/
def after (place : Cursor) : Lexeme → Cursor
  | .mark c => { place.past [c] with scope := place.scope.after c }
  | lexeme => place.past lexeme.chars

def span (place : Cursor) (cs : List Char) : Span :=
  ⟨place.offset, place.offset + Text.byteLength cs⟩

/-- A token at a place, with its kind read off its text. -/
def wordToken (place : Cursor) (cs : List Char) : Token :=
  let text := String.ofList cs
  { kind := .ofText text, text, line := place.line, scope := place.scope, span := place.span cs }

/-- The token that a lexeme yields at a place. -/
def token? (place : Cursor) : Lexeme → Option Token
  | .quote body =>
    let cs := (Lexeme.quote body).chars
    some { kind := .stringLiteral, text := String.ofList cs, line := place.line,
           scope := place.scope, span := place.span cs }
  | .mark c => some (wordToken { place with scope := place.scope.after c } [c])
  | .word cs => some (place.wordToken cs)
  | _ => none

end Cursor

def placeTokens (place : Cursor) : List Lexeme → List Token
  | [] => []
  | lexeme :: rest => (place.token? lexeme).toList ++ placeTokens (place.after lexeme) rest

def tokenize (source : String) : List Token :=
  placeTokens .start (Lexeme.ofChars source.toList)

/-- A lexeme that the end of the source left unfinished, with the line where it begins. -/
structure Leftover where
  what : Unfinished
  line : Nat
  text : String
deriving DecidableEq, Repr

/-- The unfinished lexeme at the end of a row, if there is one. -/
def leftoverFrom (place : Cursor) : List Lexeme → Option Leftover
  | [] => none
  | .unfinished what cs :: _ => some ⟨what, place.line, String.ofList cs⟩
  | lexeme :: rest => leftoverFrom (place.after lexeme) rest

/-- The unfinished lexeme at the end of a source, if there is one. -/
def leftover? (source : String) : Option Leftover :=
  leftoverFrom .start (Lexeme.ofChars source.toList)

/-- What the log says about what was left unfinished. -/
def Leftover.message (left : Leftover) : String :=
  match left.what with
  | .word => s!"line {left.line}: dropping '{left.text}' at end of input"
  | .quote => s!"line {left.line}: string literal is never closed"
  | .comment => s!"line {left.line}: block comment is never closed"

end ScriptCheck
